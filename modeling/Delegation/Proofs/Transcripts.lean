import Delegation.Proofs.MissingParameters

/-!
# What a row of runs shows

A row of runs goes on up to the first that stops it, so what is seen of the row
is what is seen of those runs, one after the other.  A list of positions is
stopped by a failure, and comparisons in turn are also stopped by a decision.
The leaves of a resolver form such a row whatever chains they are nested in, for
every view that leaves out the log.
-/

namespace Delegation

/-! ## Rows up to their stop -/

section

variable {α β : Type} {stops : α → Bool}

/-- The items up to the first that stops the row, that one included. -/
def upTo (stops : α → Bool) (items : List α) : List α :=
  items.take (items.findIdx stops + 1)

@[simp] theorem upTo_nil (stops : α → Bool) : upTo stops [] = [] := rfl

theorem mem_of_mem_upTo {items : List α} {item : α} (h : item ∈ upTo stops items) :
    item ∈ items :=
  List.mem_of_mem_take h

theorem upTo_cons (stops : α → Bool) (item : α) (items : List α) :
    upTo stops (item :: items) = item :: if stops item then [] else upTo stops items := by
  rw [upTo, List.findIdx_cons, List.take_succ_cons]
  cases stops item <;> rfl

theorem upTo_append (stops : α → Bool) (first second : List α) :
    upTo stops (first ++ second) =
      upTo stops first ++ if first.any stops then [] else upTo stops second := by
  induction first with
  | nil => rfl
  | cons item first ih =>
      rw [List.cons_append, upTo_cons, upTo_cons, List.any_cons, ih]
      cases stops item <;> simp

theorem upTo_flatMap (stops : β → Bool) (parts : α → List β) (items : List α) :
    upTo stops (items.flatMap parts) =
      (upTo (fun item => (parts item).any stops) items).flatMap fun item =>
        upTo stops (parts item) := by
  induction items with
  | nil => rfl
  | cons item items ih =>
      rw [List.flatMap_cons, upTo_append, upTo_cons, ih]
      cases (parts item).any stops <;> simp

theorem upTo_map (stops : β → Bool) (image : α → β) (items : List α) :
    upTo stops (items.map image) = (upTo (fun item => stops (image item)) items).map image := by
  rw [upTo, upTo, List.map_take, List.findIdx_map]
  rfl

theorem upTo_congr {first second : α → Bool} {items : List α}
    (h : ∀ item ∈ upTo first items, first item = second item) :
    upTo first items = upTo second items := by
  induction items with
  | nil => rfl
  | cons item items ih =>
      rw [upTo_cons] at h ⊢
      rw [upTo_cons, ← h item (by simp)]
      cases hstop : first item with
      | true => rfl
      | false =>
          rw [hstop] at h
          have hrest := ih fun other hother => h other (List.mem_cons_of_mem item hother)
          simp [hrest]

theorem upTo_eq_self {items : List α} (h : ∀ item ∈ items, stops item = false) :
    upTo stops items = items := by
  rw [upTo, List.findIdx_eq_length_of_false h]
  exact List.take_of_length_le (Nat.le_succ _)

theorem upTo_append_cons {before after : List α} {item : α}
    (hbefore : ∀ earlier ∈ before, stops earlier = false) (hitem : stops item = true) :
    upTo stops (before ++ item :: after) = before ++ [item] := by
  rw [upTo_append, upTo_eq_self hbefore, upTo_cons, hitem, List.any_eq_false.mpr]
  · rfl
  · simpa using hbefore

/-- Only the last item of a row up to its stop may be one that stops. -/
theorem find?_eq_some_of_mem_upTo {items : List α} {item : α} (h : item ∈ upTo stops items)
    (hstop : stops item = true) : items.find? stops = some item := by
  induction items with
  | nil => cases h
  | cons other items ih =>
      rw [upTo_cons] at h
      cases hother : stops other with
      | true =>
          rw [hother, if_pos rfl, List.mem_singleton] at h
          rw [List.find?_cons_of_pos hother, h]
      | false =>
          rw [hother, if_neg Bool.false_ne_true] at h
          rw [List.find?_cons_of_neg (by simp [hother])]
          rcases List.mem_cons.mp h with rfl | h
          · rw [hother] at hstop
            cases hstop
          · exact ih h

/-- The first item that stops a row does not occur before it. -/
theorem count_upTo [DecidableEq α] {items : List α} {item : α}
    (h : items.find? stops = some item) : (upTo stops items).count item = 1 := by
  obtain ⟨hstop, before, after, rfl, hbefore⟩ := List.find?_eq_some_iff_append.mp h
  have hnotBefore : item ∉ before := fun hmem => by simpa [hstop] using hbefore item hmem
  rw [upTo_append_cons (by simpa using hbefore) hstop, List.count_append,
    List.count_eq_zero_of_not_mem hnotBefore, List.count_singleton_self]

theorem upTo_range {stops : Nat → Bool} {position count : Nat} (hlt : position < count)
    (hstop : stops position = true) (hbefore : ∀ earlier < position, stops earlier = false) :
    upTo stops (List.range count) = List.range (position + 1) := by
  have hindex : (List.range count).findIdx stops = position := by
    rw [List.findIdx_eq (by simpa using hlt)]
    simpa [hstop] using hbefore
  rw [upTo, hindex, List.take_range, Nat.min_eq_left hlt]

end

/-! ## Views of composed runs -/

namespace Inquiry

variable {α β γ : Type} {view : Observation → Option γ}

/-- What the view shows of the trail, in order. -/
def seen (view : Observation → Option γ) (inquiry : Inquiry α) : List γ :=
  inquiry.trail.filterMap view

theorem seen_bind_of_ok {first : Inquiry α} {value : α} (h : first.outcome = .ok value)
    (next : α → Inquiry β) :
    (first >>= next).seen view = first.seen view ++ (next value).seen view := by
  rw [seen, bind_eq_of_ok h, List.filterMap_append]
  rfl

theorem seen_bind_of_error {first : Inquiry α} {missing : MissingParameter}
    (h : first.outcome = .error missing) (next : α → Inquiry β) :
    (first >>= next).seen view = first.seen view := by
  rw [seen, bind_eq_of_error h]
  rfl

/-- Where nothing is seen of what follows, its outcome does not matter either. -/
theorem seen_bind_of_nil {first : Inquiry α} {next : α → Inquiry β}
    (h : ∀ value, (next value).seen view = []) :
    (first >>= next).seen view = first.seen view := by
  cases houtcome : first.outcome with
  | error missing => exact seen_bind_of_error houtcome next
  | ok value => rw [seen_bind_of_ok houtcome, h, List.append_nil]

theorem seen_bind_pure (first : Inquiry α) (next : α → β) :
    (first >>= fun value => pure (next value)).seen view = first.seen view :=
  seen_bind_of_nil fun _ => rfl

theorem seen_log_bind_pure {entry : LogEntry} (h : view (.logged entry) = none) (value : α) :
    (log entry >>= fun _ => pure value).seen view = [] := by
  rw [seen_bind_pure, seen, log, List.filterMap_cons_none h, List.filterMap_nil]

theorem seen_mapM (step : α → Inquiry β) (items : List α) :
    (items.mapM step).seen view =
      (upTo (fun item => (step item).missing?.isSome) items).flatMap fun item =>
        (step item).seen view := by
  induction items with
  | nil => rfl
  | cons item items ih =>
      rw [List.mapM_cons, upTo_cons, List.flatMap_cons, missing?]
      cases houtcome : (step item).outcome with
      | error missing => simp [seen_bind_of_error houtcome]
      | ok value =>
          rw [seen_bind_of_ok houtcome, seen_bind_pure, ih]
          rfl

end Inquiry

/-! ## Comparisons in turn -/

variable {γ : Type} {view : Observation → Option γ} {source : Method} {left right : Candidate}

namespace Comparison

theorem seen_askInTurn {start : Verdict} (hstart : start.isDecided = false)
    (comparisons : List Comparison) :
    (askInTurn source left right start comparisons).seen view =
      (upTo (fun comparison => stops (comparison source left right).outcome)
        comparisons).flatMap fun comparison => (comparison source left right).seen view := by
  induction comparisons generalizing start with
  | nil => rfl
  | cons comparison comparisons ih =>
      rw [askInTurn, if_neg (by simp [hstart]), upTo_cons, List.flatMap_cons]
      cases houtcome : (comparison source left right).outcome with
      | error missing => simp [Inquiry.seen_bind_of_error houtcome, stops]
      | ok verdict =>
          rw [Inquiry.seen_bind_of_ok houtcome, stops]
          cases hdecided : verdict.isDecided with
          | false => simp [ih hdecided]
          | true =>
              cases comparisons with
              | nil => rfl
              | cons other others => simp [askInTurn, hdecided, Inquiry.seen]

theorem stops_settleInTurn {start : Verdict} (hstart : start.isDecided = false)
    (outcomes : List (Except MissingParameter Verdict)) :
    stops (settleInTurn start outcomes) = outcomes.any stops := by
  induction outcomes generalizing start with
  | nil => exact hstart
  | cons outcome outcomes ih =>
      rw [settleInTurn_cons hstart, List.any_cons]
      cases outcome with
      | error missing => rfl
      | ok next =>
          change stops (settleInTurn next outcomes) = (next.isDecided || outcomes.any stops)
          cases hnext : next.isDecided with
          | true => simp [settleInTurn_of_decided hnext, stops, hnext]
          | false => simp [ih hnext]

end Comparison

/-- Only argument types are asked about and logged; other criteria read the targets at most. -/
theorem Criterion.seen_of_ne_argumentTypes (hread : ∀ side, view (.readTarget side) = none)
    {criterion : Criterion} (h : criterion ≠ .argumentTypes) :
    (criterion.comparison source left right).seen view = [] := by
  have htargets (weigh : Method → Method → Method → Verdict) :
      (Comparison.ofTargets weigh source left right).seen view = [] := by
    change [.readTarget .left, .readTarget .right].filterMap view = []
    simp [hread]
  cases criterion with
  | priority => exact htargets _
  | owner => exact htargets _
  | argumentTypes => exact absurd rfl h
  | name => exact htargets _
  | arity => exact htargets _
  | favour side => rfl
  | abstain => rfl

/-! ## Resolvers -/

namespace Resolver

variable {Leaf : Type} {interpret : Leaf → Comparison}

/-- The resolver stops a row exactly if one of its leaves does. -/
theorem stops_outcome (resolver : Resolver Leaf) :
    Comparison.stops (resolver.comparison interpret source left right).outcome =
      resolver.leaves.any fun leaf =>
        Comparison.stops (interpret leaf source left right).outcome := by
  induction resolver with
  | single leaf => simp [leaves, comparison]
  | chain members ih =>
      rw [outcome_chain, Comparison.stops_settleInTurn rfl, leaves, leavesOfAll_eq_flatMap,
        List.any_map, List.any_flatMap, Bool.eq_iff_iff, List.any_eq_true, List.any_eq_true]
      refine exists_congr fun member => and_congr_right fun hmember => ?_
      rw [Function.comp_apply, ih member hmember]

/-- The row of the leaves is asked, up to the first that stops it, however they are nested. -/
theorem seen_leaves (hlogged : ∀ entry, view (.logged entry) = none) (resolver : Resolver Leaf) :
    (resolver.comparison interpret source left right).seen view =
      (upTo (fun leaf => Comparison.stops (interpret leaf source left right).outcome)
        resolver.leaves).flatMap fun leaf => (interpret leaf source left right).seen view := by
  induction resolver with
  | single leaf => simp [leaves, comparison, upTo_cons]
  | chain members ih =>
      rw [comparison, comparisons_eq_map, Comparison.inOrder,
        Inquiry.seen_bind_of_nil fun verdict => Inquiry.seen_log_bind_pure (hlogged _) verdict,
        Comparison.seen_askInTurn rfl, upTo_map, List.flatMap_map, leaves,
        leavesOfAll_eq_flatMap, upTo_flatMap, List.flatMap_assoc]
      simp only [stops_outcome]
      exact List.flatMap_congr fun member hmember => ih member (mem_of_mem_upTo hmember)

end Resolver

end Delegation
