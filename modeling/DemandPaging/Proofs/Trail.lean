import DemandPaging.Proofs.Consistency

/-!
# Trails

A `Trail` is a path of transitions that remembers each of them together with the machine in which it
happened. Statements about what happened on the way from one machine to another, rather than about
where the way ended, are statements about its trail.
-/

namespace DemandPaging

variable {config : Config}

/-- A transition, and the machine in which it happened. -/
structure Move (config : Config) where
  before : Machine config
  transition : Transition config

/-- Zero or more transitions, each from the machine to which the one before it led. -/
inductive Trail (start : Machine config) : List (Move config) → Machine config → Prop where
  | refl : Trail start [] start
  | step {moves : List (Move config)} {machine next : Machine config}
      {transition : Transition config} (prior : Trail start moves machine)
      (leads : transition.Leads machine next) :
    Trail start (moves ++ [⟨machine, transition⟩]) next

/-- A path has a trail, and the transitions of the trail are those that the path permits. -/
theorem Path.trail {permits : Machine config → Transition config → Prop}
    {start last : Machine config} (path : Path permits start last) :
    ∃ moves, Trail start moves last ∧ ∀ move ∈ moves, permits move.before move.transition := by
  induction path with
  | refl => exact ⟨[], .refl, fun _ member => (List.not_mem_nil member).elim⟩
  | @step machine _ transition _ leads permitted inductionHypothesis =>
    obtain ⟨moves, trail, allowed⟩ := inductionHypothesis
    refine ⟨moves ++ [⟨machine, transition⟩], .step trail leads, ?_⟩
    intro move member
    rcases List.mem_append.mp member with earlier | last
    · exact allowed move earlier
    · obtain rfl := List.mem_singleton.mp last
      exact permitted

namespace Trail

variable {start middle last : Machine config} {moves more : List (Move config)}

/-- One transition is a way. -/
theorem single {machine next : Machine config} {transition : Transition config}
    (leads : transition.Leads machine next) : Trail machine [⟨machine, transition⟩] next :=
  .step .refl leads

/-- Two ways, one after the other, are a way. -/
theorem trans (first : Trail start moves middle) (second : Trail middle more last) :
    Trail start (moves ++ more) last := by
  induction second with
  | refl => simpa using first
  | step _ leads inductionHypothesis =>
    rw [← List.append_assoc]
    exact .step inductionHypothesis leads

/-- A trail passes through the machine in which each of its transitions happened. -/
theorem split {move : Move config} (trail : Trail start (moves ++ move :: more) last) :
    Trail start moves move.before ∧
      ∃ next, move.transition.Leads move.before next ∧ Trail next more last := by
  generalize whole : moves ++ move :: more = all at trail
  induction trail generalizing more with
  | refl => cases moves <;> cases whole
  | @step prior machine next transition trail leads inductionHypothesis =>
    rcases List.eq_nil_or_concat more with rfl | ⟨front, final, rfl⟩
    · obtain ⟨rfl, same⟩ := List.append_inj' whole rfl
      cases same
      exact ⟨trail, next, leads, .refl⟩
    · rw [List.concat_eq_append, ← List.cons_append, ← List.append_assoc] at whole
      obtain ⟨rfl, same⟩ := List.append_inj' whole rfl
      cases same
      obtain ⟨before, middle, first, rest⟩ := inductionHypothesis rfl
      rw [List.concat_eq_append]
      exact ⟨before, middle, first, .step rest leads⟩

/-- A trail passes through the machine between any two of its parts. -/
theorem cut {later : List (Move config)} (trail : Trail start (moves ++ later) last) :
    ∃ middle, Trail start moves middle ∧ Trail middle later last := by
  cases later with
  | nil => exact ⟨last, (List.append_nil moves) ▸ trail, .refl⟩
  | cons move rest =>
    obtain ⟨first, next, leads, second⟩ := trail.split
    exact ⟨move.before, first, (Trail.single leads).trans second⟩

/-- A way without transitions leads nowhere. -/
theorem eq_of_nil (trail : Trail start [] last) : last = start := by
  generalize none : ([] : List (Move config)) = moves at trail
  cases trail with
  | refl => rfl
  | step => exact absurd none.symm (List.append_ne_nil_of_right_ne_nil _ (List.cons_ne_nil _ _))

/-- The first transition of a trail happens in the machine with which the trail starts. -/
theorem before_eq {move : Move config} (trail : Trail start (move :: more) last) :
    move.before = start := by
  have whole : Trail start ([] ++ move :: more) last := trail
  exact whole.split.1.eq_of_nil

/-- What every transition preserves holds at the end of a trail, and wherever a transition of it
happened. -/
theorem preserves {holds : Machine config → Prop} (trail : Trail start moves last)
    (initially : holds start)
    (preserved : ∀ (move : Move config) (next : Machine config), move ∈ moves →
      holds move.before → move.transition.Leads move.before next → holds next) :
    holds last ∧ ∀ move ∈ moves, holds move.before := by
  induction trail with
  | refl => exact ⟨initially, fun _ member => (List.not_mem_nil member).elim⟩
  | @step moves machine next transition _ leads inductionHypothesis =>
    obtain ⟨reached, along⟩ := inductionHypothesis fun move next member =>
      preserved move next (List.mem_append_left _ member)
    refine ⟨preserved ⟨machine, transition⟩ next (by simp) reached leads, ?_⟩
    intro move member
    rcases List.mem_append.mp member with earlier | here
    · exact along move earlier
    · obtain rfl := List.mem_singleton.mp here
      exact reached

/-- A trail of permitted transitions is a path. -/
theorem path {permits : Transition config → Prop} (trail : Trail start moves last)
    (permitted : ∀ move ∈ moves, permits move.transition) :
    Path (fun _ => permits) start last := by
  induction trail with
  | refl => exact .refl
  | step _ leads inductionHypothesis =>
    refine .step (inductionHypothesis fun move listed => ?_) leads ?_
    · exact permitted move (List.mem_append_left _ listed)
    · exact permitted _ (List.mem_append_right _ List.mem_cons_self)

/-- All machines on the way from a consistent one are consistent. -/
theorem consistent (trail : Trail start moves last) (consistent : start.Consistent) :
    last.Consistent ∧ ∀ move ∈ moves, move.before.Consistent :=
  trail.preserves consistent fun _ _ _ before leads => leads.consistent before

/-- What every transition preserves that starts from a consistent machine holds at the end of a trail,
and wherever a transition of it happened. -/
theorem preserves_of_consistent {holds : Machine config → Prop} (trail : Trail start moves last)
    (consistent : start.Consistent) (initially : holds start)
    (preserved : ∀ (move : Move config) (next : Machine config), move ∈ moves →
      move.before.Consistent → holds move.before → move.transition.Leads move.before next → holds next) :
    holds last ∧ ∀ move ∈ moves, holds move.before := by
  have both : (last.Consistent ∧ holds last) ∧
      ∀ move ∈ moves, move.before.Consistent ∧ holds move.before := by
    apply trail.preserves ⟨consistent, initially⟩
    exact fun move next listed before leads =>
      ⟨leads.consistent before.1, preserved move next listed before.1 before.2 leads⟩
  exact ⟨both.1.2, fun move listed => (both.2 move listed).2⟩

end Trail

end DemandPaging
