import PatternDispatch.Chain

/-!
Chains as lists of alternatives. Every way to make a chain from others is an operation on lists, and
the links of the new chain are new ones in front of an end that it shares with an old one. So the
number of a link tells all that follows it, whatever is made later.
-/

namespace PatternDispatch

variable {κ : Type}

/-- The numbers of new links are given in order. -/
theorem Link.map_number_numbered (first : Nat) (alternatives : List (Alternative κ)) :
    (numbered first alternatives).map (·.number) = List.range' first alternatives.length := by
  induction alternatives generalizing first with
  | nil => rfl
  | cons alternative others ih =>
    rw [numbered, List.map_cons, ih, List.length_cons, List.range'_succ]

namespace Chain

/-- The alternatives of a chain, if one is given. -/
def listed : Option (Chain κ) → List (Alternative κ)
  | none => []
  | some c => c.alternatives

theorem alternatives_ofLinks? (links : List (Link κ)) :
    listed (ofLinks? links) = links.map (·.alternative) := by
  cases links with
  | nil => rfl
  | cons link others => rfl

theorem ext_links {a b : Chain κ} (same : a.links = b.links) : a = b := by
  cases a
  cases b
  cases same
  rfl

/-! ## New chains -/

/-- A chain of new links, numbered from `first` to below `next`, in front of an end. -/
structure Woven (first next : Nat) (ending : List (Link κ)) (c : Chain κ) : Prop where
  ordered : first ≤ next
  links : ∃ new : List (Link κ), c.links = new ++ ending ∧ (new.map (·.number)).Nodup ∧
    ∀ link ∈ new, first ≤ link.number ∧ link.number < next

theorem woven_numbered {first : Nat} {alternatives : List (Alternative κ)}
    {ending : List (Link κ)} {c : Chain κ}
    (links : c.links = Link.numbered first alternatives ++ ending) :
    Woven first (first + alternatives.length) ending c := by
  refine ⟨Nat.le_add_right _ _, _, links, ?_, ?_⟩
  · rw [Link.map_number_numbered]
    exact List.nodup_range' 1
  · intro link member
    have number := List.mem_map_of_mem (f := (·.number)) member
    rw [Link.map_number_numbered, List.mem_range'_1] at number
    exact number

theorem Woven.mono {first lower next : Nat} {ending : List (Link κ)} {c : Chain κ}
    (woven : Woven first next ending c) (below : lower ≤ first) : Woven lower next ending c := by
  obtain ⟨ordered, new, links, distinct, numbers⟩ := woven
  refine ⟨Nat.le_trans below ordered, new, links, distinct, ?_⟩
  intro link member
  exact ⟨Nat.le_trans below (numbers link member).1, (numbers link member).2⟩

/-- New links in front of new links. -/
theorem Woven.trans {first between next : Nat} {ending : List (Link κ)} {other c : Chain κ}
    (later : Woven between next other.links c) (earlier : Woven first between ending other) :
    Woven first next ending c := by
  obtain ⟨order, front, links, distinct, numbers⟩ := later
  obtain ⟨orderOther, behind, linksOther, distinctOther, numbersOther⟩ := earlier
  refine ⟨Nat.le_trans orderOther order, front ++ behind, ?_, ?_, ?_⟩
  · rw [links, linksOther, List.append_assoc]
  · rw [List.map_append, List.nodup_append]
    refine ⟨distinct, distinctOther, ?_⟩
    intro number inFront same inBehind equal
    obtain ⟨link, member, rfl⟩ := List.mem_map.mp inFront
    obtain ⟨other, memberOther, rfl⟩ := List.mem_map.mp inBehind
    have above := (numbers link member).1
    have below := (numbersOther other memberOther).2
    omega
  · intro link member
    obtain inFront | inBehind := List.mem_append.mp member
    · exact ⟨Nat.le_trans orderOther (numbers link inFront).1, (numbers link inFront).2⟩
    · exact ⟨(numbersOther link inBehind).1, Nat.lt_of_lt_of_le (numbersOther link inBehind).2 order⟩

theorem single_spec (alternative : Alternative κ) (first : Nat) :
    ∃ next made, single alternative first = ⟨next, [], .ok made⟩ ∧
      made.alternatives = [alternative] ∧ Woven first next [] made := by
  refine ⟨first + 1, _, rfl, rfl, ?_⟩
  exact @woven_numbered _ first [alternative] [] _ rfl

theorem append_spec (c other : Chain κ) (first : Nat) :
    ∃ next made, c.append other first = ⟨next, [], .ok made⟩ ∧
      made.alternatives = c.alternatives ++ other.alternatives ∧
      Woven first next other.links made :=
  ⟨_, _, rfl, alternatives_append rfl, woven_numbered rfl⟩

theorem extend_spec (c : Chain κ) (alternative : Alternative κ) (first : Nat) :
    ∃ next made, c.extend alternative first = ⟨next, [], .ok made⟩ ∧
      made.alternatives = c.alternatives ++ [alternative] ∧ Woven first next [] made := by
  obtain ⟨between, one, ran, alone, wovenOne⟩ := single_spec alternative first
  obtain ⟨next, made, ranMade, alternatives, woven⟩ := append_spec c one between
  refine ⟨next, made, ?_, ?_, woven.trans wovenOne⟩
  · rw [extend, Action.bind_of_ok ran, ranMade]
    rfl
  · rw [alternatives, alone]

theorem clone_spec (c : Chain κ) (first : Nat) :
    ∃ next made, c.clone first = ⟨next, [], .ok made⟩ ∧ made.alternatives = c.alternatives ∧
      Woven first next [] made := by
  have length : c.alternatives.length = c.length := List.length_map _
  refine ⟨_, _, rfl, alternatives_clone rfl, ?_⟩
  rw [← length]
  exact woven_numbered (List.append_nil _).symm

theorem last_suffix (c : Chain κ) : c.last.links <:+ c.links :=
  ⟨c.links.dropLast, List.dropLast_concat_getLast c.nonempty⟩

theorem alternatives_last (c : Chain κ) :
    c.last.alternatives = [c.alternatives.getLast c.alternatives_ne_nil] := by
  simp only [last, alternatives, List.map_cons, List.map_nil, List.getLast_map]

/-- Taking the last alternative off copies the others, if there are any. -/
theorem pop_spec (c : Chain κ) (first : Nat) :
    ∃ next front, c.pop first = ⟨next, [], .ok (front, c.last)⟩ ∧
      listed front = c.alternatives.dropLast ∧ first ≤ next ∧
      ∀ rest, front = some rest → Woven first next [] rest := by
  refine ⟨_, _, rfl, ?_, Nat.le_add_right _ _, ?_⟩
  · rw [alternatives_ofLinks?]
    exact Link.map_numbered first _
  · intro rest same
    apply woven_numbered
    rw [List.append_nil]
    cases links : Link.numbered first c.alternatives.dropLast with
    | nil =>
      rw [links] at same
      cases same
    | cons link others =>
      rw [links] at same
      cases same
      rfl

/-- What is taken apart by `pop` is put together by `append`. -/
theorem append_pop (c : Chain κ) (front : Chain κ) (first : Nat)
    (split : listed (some front) = c.alternatives.dropLast) :
    ∃ next made, front.append c.last first = ⟨next, [], .ok made⟩ ∧
      made.alternatives = c.alternatives := by
  obtain ⟨next, made, ran, alternatives, -⟩ := append_spec front c.last first
  refine ⟨next, made, ran, ?_⟩
  rw [alternatives, alternatives_last]
  exact (congrArg (· ++ _) split).trans (List.dropLast_concat_getLast c.alternatives_ne_nil)

/-! ## Shared links -/

/-- In a list of different numbers a number tells where it stands. -/
theorem suffix_unique {links xs ys : List (Link κ)} {x y : Link κ}
    (distinct : (links.map (·.number)).Nodup) (first : x :: xs <:+ links)
    (second : y :: ys <:+ links) (same : x.number = y.number) : x :: xs = y :: ys := by
  have apart {x y : Link κ} {xs ys : List (Link κ)} (inside : x :: xs <:+ y :: ys)
      (second : y :: ys <:+ links) (same : x.number = y.number) : x :: xs = y :: ys := by
    have distinct := (second.map (·.number)).sublist.nodup distinct
    rw [List.map_cons, List.nodup_cons] at distinct
    obtain equal | later := List.suffix_cons_iff.mp inside
    · exact equal
    · have member : x ∈ ys := later.subset List.mem_cons_self
      exact absurd (List.mem_map_of_mem member) (same ▸ distinct.1)
  obtain inside | inside := List.suffix_or_suffix_of_suffix first second
  · exact apart inside second same
  · exact (apart inside first same.symm).symm

theorem suffix_append_cases {new ending xs : List (Link κ)} {x : Link κ}
    (inside : x :: xs <:+ new ++ ending) :
    x :: xs <:+ ending ∨ ∃ back, xs = back ++ ending ∧ x :: back <:+ new := by
  obtain ⟨front, equal⟩ := inside
  obtain ⟨own, rfl, split⟩ | ⟨rest, -, rfl⟩ := List.append_eq_append_iff.mp equal
  · cases own with
    | nil => exact .inl ⟨[], split⟩
    | cons link back =>
      cases split
      exact .inr ⟨back, rfl, front, rfl⟩
  · exact .inl ⟨rest, rfl⟩

/-- Chains that have a link in common have all links behind it in common, and numbers from `next`
on are not in use. -/
structure Knit (next : Nat) (chains : List (Chain κ)) : Prop where
  below : ∀ c ∈ chains, ∀ link ∈ c.links, link.number < next
  shared : ∀ c ∈ chains, ∀ d ∈ chains, ∀ x xs y ys, x :: xs <:+ c.links → y :: ys <:+ d.links →
    x.number = y.number → x :: xs = y :: ys

theorem knit_nil {next : Nat} : Knit next ([] : List (Chain κ)) where
  below _ member := nomatch member
  shared _ member := nomatch member

theorem Knit.mono {first next : Nat} {chains : List (Chain κ)} (knit : Knit first chains)
    (order : first ≤ next) : Knit next chains where
  below c member link inside := Nat.lt_of_lt_of_le (knit.below c member link inside) order
  shared := knit.shared

theorem Knit.subset {next : Nat} {chains others : List (Chain κ)} (knit : Knit next chains)
    (part : others ⊆ chains) : Knit next others where
  below c member := knit.below c (part member)
  shared c member d memberD := knit.shared c (part member) d (part memberD)

variable {first next : Nat} {chains : List (Chain κ)} {new ending : List (Link κ)}
  {made : Chain κ}

/-- A place in one of the chains is in an old chain or on a new link. -/
theorem place_cases (links : made.links = new ++ ending)
    (known : ending = [] ∨ ∃ c ∈ chains, ending <:+ c.links) {c : Chain κ}
    (member : c ∈ made :: chains) {x : Link κ} {xs : List (Link κ)}
    (inside : x :: xs <:+ c.links) :
    (∃ d ∈ chains, x :: xs <:+ d.links) ∨ ∃ back, xs = back ++ ending ∧ x :: back <:+ new := by
  obtain rfl | old := List.mem_cons.mp member
  · rw [links] at inside
    obtain inEnding | inNew := suffix_append_cases inside
    · obtain rfl | ⟨d, memberD, suffix⟩ := known
      · exact absurd (List.suffix_nil.mp inEnding) (List.cons_ne_nil x xs)
      · exact .inl ⟨d, memberD, inEnding.trans suffix⟩
    · exact .inr inNew
  · exact .inl ⟨c, old, inside⟩

/-- A new chain is knit to the others at most by the end that it was given. -/
theorem Knit.weave (knit : Knit first chains) (woven : Woven first next ending made)
    (known : ending = [] ∨ ∃ c ∈ chains, ending <:+ c.links) : Knit next (made :: chains) := by
  obtain ⟨order, new, links, distinct, numbers⟩ := woven
  have oldBelow {x : Link κ} {xs : List (Link κ)} (old : ∃ d ∈ chains, x :: xs <:+ d.links) :
      x.number < first := by
    obtain ⟨d, memberD, suffix⟩ := old
    exact knit.below d memberD x (suffix.subset List.mem_cons_self)
  constructor
  · intro c member link inside
    obtain ⟨front, behind, split⟩ := List.append_of_mem inside
    obtain old | ⟨back, -, inNew⟩ := place_cases links known member ⟨front, split.symm⟩
    · exact Nat.lt_of_lt_of_le (oldBelow old) order
    · exact (numbers link (inNew.subset List.mem_cons_self)).2
  · intro c member d memberD x xs y ys suffixX suffixY same
    -- Old numbers are below `first` and new ones are not, so both places are old or both are new.
    obtain oldX | ⟨back, rfl, newX⟩ := place_cases links known member suffixX
    · obtain oldY | ⟨back, rfl, newY⟩ := place_cases links known memberD suffixY
      · obtain ⟨c, member, suffixX⟩ := oldX
        obtain ⟨d, memberD, suffixY⟩ := oldY
        exact knit.shared c member d memberD x xs y ys suffixX suffixY same
      · have below := oldBelow oldX
        have above := (numbers y (newY.subset List.mem_cons_self)).1
        omega
    · obtain oldY | ⟨other, rfl, newY⟩ := place_cases links known memberD suffixY
      · have below := oldBelow oldY
        have above := (numbers x (newX.subset List.mem_cons_self)).1
        omega
      · have equal := suffix_unique distinct newX newY same
        rw [← List.cons_append, equal, List.cons_append]

/-- A part of a known chain adds nothing. -/
theorem Knit.part {c : Chain κ} (knit : Knit next chains) (known : c ∈ chains)
    (suffix : made.links <:+ c.links) : Knit next (made :: chains) := by
  constructor
  · intro d member link inside
    obtain rfl | old := List.mem_cons.mp member
    · exact knit.below c known link (suffix.subset inside)
    · exact knit.below d old link inside
  · have old {d : Chain κ} (member : d ∈ made :: chains) :
        ∃ e ∈ chains, d.links <:+ e.links := by
      obtain rfl | old := List.mem_cons.mp member
      · exact ⟨c, known, suffix⟩
      · exact ⟨d, old, List.suffix_refl _⟩
    intro d memberD e memberE x xs y ys suffixX suffixY same
    obtain ⟨oldD, memberD, partD⟩ := old memberD
    obtain ⟨oldE, memberE, partE⟩ := old memberE
    exact knit.shared oldD memberD oldE memberE x xs y ys (suffixX.trans partD)
      (suffixY.trans partE) same

/-- Chains of knit links are the same if their first links are. -/
theorem Knit.eq_of_isSame (knit : Knit next chains) {a b : Chain κ} (memberA : a ∈ chains)
    (memberB : b ∈ chains) (same : a.isSame b = true) : a = b := by
  have numbers := beq_iff_eq.mp same
  apply ext_links
  have whole (c : Chain κ) : c.links.head c.nonempty :: c.links.tail <:+ c.links :=
    ⟨[], List.cons_head_tail c.nonempty⟩
  have equal := knit.shared a memberA b memberB _ _ _ _ (whole a) (whole b) numbers
  rw [List.cons_head_tail, List.cons_head_tail] at equal
  exact equal

end Chain

end PatternDispatch
