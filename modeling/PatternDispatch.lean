import PatternDispatch.Environment
import PatternDispatch.Log
import PatternDispatch.Pattern.Build
import PatternDispatch.Proofs.ArrayFreeValues
import PatternDispatch.Proofs.CacheHistory
import PatternDispatch.Proofs.CacheTransparency
import PatternDispatch.Proofs.CaptureOrder
import PatternDispatch.Proofs.ErrorPlaces
import PatternDispatch.Proofs.FirstMatch
import PatternDispatch.Proofs.MappingMeaning
import PatternDispatch.Proofs.ReadingFailures
import PatternDispatch.Proofs.RegisteredSumTypes
import PatternDispatch.Proofs.ReparsedRun
import PatternDispatch.Proofs.SequenceMeaning
import PatternDispatch.Proofs.StructuralMatching
import PatternDispatch.Proofs.WellFormedTree
import PatternDispatch.Text.Uppercase
import PatternDispatch.Value.Hashing
import PatternDispatch.Value.Moment
import PatternDispatch.Value.Slice
import PatternDispatch.Proofs.CacheAccounting
import PatternDispatch.Proofs.SharedSpelling
import PatternDispatch.Proofs.NumberTokens
import PatternDispatch.Proofs.MissingHooks
import PatternDispatch.Proofs.CaptureNames
import PatternDispatch.Proofs.ItemOrder
import PatternDispatch.Proofs.MentionedNames
import PatternDispatch.Proofs.EnclosedText
import PatternDispatch.Proofs.TaggedSpellings
import PatternDispatch.Proofs.ArgumentLists
import PatternDispatch.Proofs.ExtractorTable
import PatternDispatch.Proofs.VariantTable
import PatternDispatch.Proofs.ReadingTermination
