import ClassRecovery.InPlace

namespace ClassRecovery

/-!
# What a splice does at every place

A pass puts declarations only where their statements are.  Here a splice is taken at any
two places.  It is impossible at a place behind the end of the list, and at the only place
of the empty list.  At all others it keeps what stands in front of the first place and what
stands behind the last, cut to the list, and of the latter it may lose one discarded value
but no other statement.

In words of sixty-four bits nothing else comes about.  The sums that a splice takes are of
places in the list and one, and where a splice is impossible the list has not been touched.
-/

/-- There is no such place in a list to put something at. -/
def NoPlace (statements : List Node) (start : Nat) : Prop :=
  statements.length < start ∨ (statements = [] ∧ start = 0)

/-- The first place that is kept behind what is replaced. -/
def behindReplaced (statements : List Node) (start stop : Nat) : Nat :=
  max start (min stop (statements.length - 1) + 1)

section Places

variable {statements : List Node} {start : Nat}

theorem replaceRange_of_noPlace (missing : NoPlace statements start) (stop : Nat)
    (nodes : List Node) : replaceRange statements start stop nodes = none := by
  unfold replaceRange
  rcases missing with beyond | ⟨rfl, rfl⟩
  · dsimp only
    rw [if_pos (by omega), if_neg (by omega)]
  · rfl

theorem replaceRange_of_place (place : ¬ NoPlace statements start) (stop : Nat)
    (nodes : List Node) :
    replaceRange statements start stop nodes =
      some (statements.take start ++ nodes ++
        statements.drop (behindReplaced statements start stop)) := by
  have inside : start ≤ statements.length := Nat.le_of_not_lt fun beyond => place (Or.inl beyond)
  unfold replaceRange behindReplaced
  dsimp only
  by_cases inserts : min stop (statements.length - 1) < start
  · rw [if_pos inserts, if_pos inside, Nat.max_eq_left inserts]
  · have nonempty : statements.length ≠ 0 := by
      intro length
      have empty := List.length_eq_zero_iff.mp length
      exact place (Or.inr ⟨empty, by omega⟩)
    rw [if_neg inserts, if_pos (by omega), Nat.max_eq_right (by omega)]

/-- The alternative and the kept statements follow the declaration. -/
theorem spliceDeclaration_of_place (place : ¬ NoPlace statements start) (stop : Nat)
    (declaration : Node) (alternative : List Node) :
    spliceDeclaration statements start stop declaration alternative =
      some (statements.take start ++ declaration ::
        (alternative ++ dropPop (statements.drop (behindReplaced statements start stop)))) := by
  have inside : start ≤ statements.length := Nat.le_of_not_lt fun beyond => place (Or.inl beyond)
  have front : (statements.take start ++ [declaration]).length = start + 1 := by
    rw [List.length_append, List.length_take_of_le inside]
    rfl
  rw [spliceDeclaration, replaceRange_of_place place, Option.map_some, List.take_left' front,
    List.drop_left' front]
  simp only [List.append_assoc, List.cons_append, List.nil_append]

end Places

/-! ## In words -/

/-- The end of a change in place that amounts to a replacement, or that is not possible. -/
def endsAs (before : List Node) : Option (List Node) → Except PlaceFault Unit × List Node
  | some after => (.ok (), after)
  | none => (.error .outside, before)

/-- A place in a list is so small that the next place is a word. -/
theorem outcome_addWords_one {subject : Type} (place : UInt64)
    (fits : place.toNat + 1 < UInt64.size)
    (before : subject) :
    (addWords place 1).outcome before = (.ok (place + 1), before) ∧
      (place + 1).toNat = place.toNat + 1 := by
  have sum : place.toNat + (1 : UInt64).toNat < UInt64.size := fits
  constructor
  · rw [addWords, if_pos sum]
    rfl
  · exact (UInt64.toNat_add place 1).trans (Nat.mod_eq_of_lt sum)

namespace Statements

theorem outcome_replaceBetween {start behind : UInt64} (ordered : start ≤ behind)
    (nodes statements : List Node) :
    (replaceBetween start behind nodes).outcome statements =
      if behind.toNat ≤ statements.length then
        (.ok (), statements.take start.toNat ++ nodes ++ statements.drop behind.toNat)
      else (.error .outside, statements) := by
  have begun : (replaceBetween start behind nodes).outcome statements =
      if start ≤ behind ∧ behind.toNat ≤ statements.length then
        (.ok (), statements.take start.toNat ++ nodes ++ statements.drop behind.toNat)
      else (.error .outside, statements) := by
    change (if start ≤ behind ∧ behind.toNat ≤ statements.length then _ else _ :
      InPlace (List Node) PlaceFault Unit).outcome statements = _
    split <;> rfl
  simp only [begun, ordered, true_and]

theorem outcome_removeAt {place : UInt64} {front : List Node} (node : Node) (rest : List Node)
    (length : front.length = place.toNat) :
    (removeAt place).outcome (front ++ node :: rest) = (.ok (), front ++ rest) := by
  have inside : place.toNat < (front ++ node :: rest).length := by
    rw [List.length_append, List.length_cons]
    omega
  have removed : (front ++ node :: rest).eraseIdx place.toNat = front ++ rest := by
    rw [← length, List.eraseIdx_append_of_length_le (Nat.le_refl _), Nat.sub_self]
    rfl
  change (if place.toNat < (front ++ node :: rest).length then _ else _ :
    InPlace (List Node) PlaceFault Unit).outcome (front ++ node :: rest) = _
  rw [if_pos inside, removed]
  rfl

theorem outcome_removePopAt {place : UInt64} {front : List Node} (behind : List Node)
    (length : front.length = place.toNat) :
    (removePopAt place).outcome (front ++ behind) = (.ok (), front ++ dropPop behind) := by
  have found : (front ++ behind)[place.toNat]? = behind.head? := by
    rw [← length, List.getElem?_append_right (Nat.le_refl _), Nat.sub_self, List.head?_eq_getElem?]
  change (if Site.popAt (front ++ behind) place.toNat then removeAt place else pure ()).outcome
    (front ++ behind) = _
  rcases dropPop_cases behind with popped | ⟨same, noPop⟩
  · have here : Site.popAt (front ++ behind) place.toNat = true := by
      rw [Site.popAt_eq_true_iff, found, popped]
      rfl
    rw [if_pos here, popped]
    exact outcome_removeAt .pop (dropPop behind) length
  · have notHere : ¬ Site.popAt (front ++ behind) place.toNat = true := by
      rw [Site.popAt_eq_true_iff, found]
      exact noPop
    rw [if_neg notHere, ← same]
    rfl

theorem toNat_cutPlace (stop : UInt64) {length : Nat} (fits : length < UInt64.size) :
    (cutPlace stop (UInt64.ofNat length)).toNat = min stop.toNat (length - 1) := by
  have whole : (UInt64.ofNat length).toNat = length :=
    UInt64.toNat_ofNat_of_lt' fits
  have final : (if UInt64.ofNat length = 0 then 0 else UInt64.ofNat length - 1).toNat =
      length - 1 := by
    split
    · next empty =>
        rw [empty] at whole
        rw [← whole]
        rfl
    · next nonempty =>
        have one : (1 : UInt64) ≤ UInt64.ofNat length := by
          rw [UInt64.le_iff_toNat_le, whole]
          exact Nat.one_le_iff_ne_zero.mpr fun zero => nonempty (by rw [zero]; rfl)
        rw [UInt64.toNat_sub_of_le _ _ one, whole]
        rfl
  unfold cutPlace
  dsimp only
  generalize (if UInt64.ofNat length = 0 then 0 else UInt64.ofNat length - 1) = last at final ⊢
  rw [← final]
  split
  · next below => exact (Nat.min_eq_left (UInt64.le_iff_toNat_le.mp below)).symm
  · next above =>
      exact (Nat.min_eq_right (Nat.le_of_not_le (mt UInt64.le_iff_toNat_le.mpr above))).symm

section Words

variable {statements : List Node} (fits : statements.length + 1 < UInt64.size)

include fits

theorem outcome_replaceThrough (start stop : UInt64) (nodes : List Node) :
    (replaceThrough start stop nodes).outcome statements =
      endsAs statements (replaceRange statements start.toNat stop.toNat nodes) := by
  have cut := toNat_cutPlace stop (Nat.lt_of_succ_lt fits)
  have begun : (replaceThrough start stop nodes).outcome statements =
      (if cutPlace stop (UInt64.ofNat statements.length) < start then
        replaceBetween start start nodes
      else addWords (cutPlace stop (UInt64.ofNat statements.length)) 1 >>= fun behind =>
        replaceBetween start behind nodes).outcome statements := rfl
  rw [begun, replaceRange, ← cut]
  generalize cutPlace stop (UInt64.ofNat statements.length) = last at cut ⊢
  by_cases inserts : last < start
  · rw [if_pos inserts, if_pos (UInt64.lt_iff_toNat_lt.mp inserts),
      outcome_replaceBetween (UInt64.le_refl start)]
    split <;> rfl
  · have ordered := Nat.le_of_not_lt (mt UInt64.lt_iff_toNat_lt.mpr inserts)
    rcases outcome_addWords_one last (by omega) statements with ⟨sum, next⟩
    have behind : start ≤ last + 1 := by
      rw [UInt64.le_iff_toNat_le, next]
      omega
    rw [if_neg inserts, if_neg (Nat.not_lt.mpr ordered), InPlace.outcome_bind, sum]
    dsimp only
    rw [outcome_replaceBetween behind, next]
    change (if last.toNat < statements.length then _ else _) = _
    split <;> rfl

/-- The value that is discarded behind the declaration is looked for and removed before the
alternative is there, so it is never one of the alternative. -/
theorem outcome_spliceThrough (start stop : UInt64) (declaration : Node)
    (alternative : List Node) :
    (spliceThrough start stop declaration alternative).outcome statements =
      endsAs statements
        (spliceDeclaration statements start.toNat stop.toNat declaration alternative) := by
  have begun : spliceThrough start stop declaration alternative =
      (replaceThrough start stop [declaration] >>= fun _ => addWords start 1 >>= fun next =>
        removePopAt next >>= fun _ =>
          if !alternative.isEmpty then replaceBetween next next alternative else pure ()) := rfl
  rw [begun, InPlace.outcome_bind, outcome_replaceThrough fits]
  by_cases missing : NoPlace statements start.toNat
  · rw [spliceDeclaration, replaceRange_of_noPlace missing]
    rfl
  · have inside := Nat.le_of_not_lt fun beyond => missing (Or.inl beyond)
    rw [spliceDeclaration_of_place missing, replaceRange_of_place missing]
    generalize statements.drop (behindReplaced statements start.toNat stop.toNat) = kept
    have replaced := outcome_addWords_one start (by omega)
      (statements.take start.toNat ++ [declaration] ++ kept)
    have front : (statements.take start.toNat ++ [declaration]).length = (start + 1).toNat := by
      rw [List.length_append, List.length_take_of_le inside, replaced.2]
      rfl
    dsimp only [endsAs]
    rw [InPlace.outcome_bind, replaced.1]
    dsimp only
    rw [InPlace.outcome_bind, outcome_removePopAt kept front]
    dsimp only
    cases alternative with
    | nil =>
        change (Except.ok (), statements.take start.toNat ++ [declaration] ++ dropPop kept) = _
        rw [List.append_assoc]
        rfl
    | cons first rest =>
        change (replaceBetween (start + 1) (start + 1) (first :: rest)).outcome _ = _
        rw [outcome_replaceBetween (UInt64.le_refl _), if_pos, List.take_left' front,
          List.drop_left' front]
        · simp only [List.append_assoc, List.cons_append, List.nil_append]
        · rw [List.length_append, front]
          exact Nat.le_add_right _ _

end Words

end Statements

/-- A splice is impossible exactly at a place behind the end of the list and at the only
place of an empty list, both when it puts statements and when it puts a declaration.  At any
other place what stands in front of the first place and what stands behind the last one is
kept.  Only one discarded value right behind a declaration goes, and where there is none
nothing goes; the alternative is put between the declaration and what is kept, and is whole.

A list whose length and one more are words, as they are of every list that memory holds, is
spliced in words with the same result: no sum is too large for a word, and where there is no
place the list is what it was. -/
theorem splice_at_place (statements : List Node) (start stop : UInt64) (nodes : List Node)
    (declaration : Node) (alternative : List Node) :
    (replaceRange statements start.toNat stop.toNat nodes = none ↔
      NoPlace statements start.toNat) ∧
    (spliceDeclaration statements start.toNat stop.toNat declaration alternative = none ↔
      NoPlace statements start.toNat) ∧
    (¬ NoPlace statements start.toNat →
      replaceRange statements start.toNat stop.toNat nodes =
        some (statements.take start.toNat ++ nodes ++
          statements.drop (behindReplaced statements start.toNat stop.toNat)) ∧
      ∃ discarded kept,
        statements.drop (behindReplaced statements start.toNat stop.toNat) = discarded ++ kept ∧
        (discarded = [.pop] ∨ (discarded = [] ∧ kept.head? ≠ some .pop)) ∧
        spliceDeclaration statements start.toNat stop.toNat declaration alternative =
          some (statements.take start.toNat ++ declaration :: (alternative ++ kept))) ∧
    (statements.length + 1 < UInt64.size →
      (Statements.replaceThrough start stop nodes).outcome statements =
        endsAs statements (replaceRange statements start.toNat stop.toNat nodes) ∧
      (Statements.spliceThrough start stop declaration alternative).outcome statements =
        endsAs statements
          (spliceDeclaration statements start.toNat stop.toNat declaration alternative)) := by
  refine ⟨?_, ?_, fun place => ⟨replaceRange_of_place place _ _, ?_⟩, fun fits =>
    ⟨Statements.outcome_replaceThrough fits start stop nodes,
      Statements.outcome_spliceThrough fits start stop declaration alternative⟩⟩
  · by_cases missing : NoPlace statements start.toNat
    · exact iff_of_true (replaceRange_of_noPlace missing _ _) missing
    · rw [replaceRange_of_place missing]
      exact iff_of_false (fun same => by cases same) missing
  · by_cases missing : NoPlace statements start.toNat
    · rw [spliceDeclaration, replaceRange_of_noPlace missing]
      exact iff_of_true rfl missing
    · rw [spliceDeclaration_of_place missing]
      exact iff_of_false (fun same => by cases same) missing
  · rw [spliceDeclaration_of_place place]
    generalize statements.drop (behindReplaced statements start.toNat stop.toNat) = behind
    rcases dropPop_cases behind with popped | ⟨same, noPop⟩
    · exact ⟨[.pop], dropPop behind, popped, Or.inl rfl, rfl⟩
    · exact ⟨[], behind, rfl, Or.inr ⟨rfl, noPop⟩, by rw [← same]⟩

end ClassRecovery
