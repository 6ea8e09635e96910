import Descent.Proofs.Outcomes
import Descent.Script.Host

/-!
# Loops are chains of their steps

An effect repeats a step in a loop of its own, which carries along what has been written and
reported so far, or by `Flow.unroll`, which has no loop and binds every step to what follows it.
Main statement: in each effect that has a loop the two come to the same, and to what the states tell
through which the repetition passes: its value is that of the step that ends it, its output is that
of all its steps, in order. A repetition whose every step goes on has a result in neither way.

The induction is on the states that are passed and is done once, for all lawful effects
(`Flow.unroll_of_leads`): a step that can only go on in one way is followed by what that way leads
to.
-/

namespace Descent

variable {m : Type → Type} [Effect m] {σ α β : Type}

namespace Flow

/-! ## The way of a repetition -/

/-- From a state a repetition goes on through the states `visited`, one after the other, to a last
one. -/
inductive Leads (goesOn : σ → σ → Prop) : σ → List σ → σ → Prop where
  | here (s : σ) : Leads goesOn s [] s
  | onward {s t last : σ} {visited : List σ} (first : goesOn s t)
      (rest : Leads goesOn t visited last) : Leads goesOn s (s :: visited) last

/-- From every state to which the repetition comes it goes on. -/
def Endless (goesOn : σ → σ → Prop) (start : σ) : Prop :=
  ∀ visited last, Leads goesOn start visited last → ∃ next, goesOn last next

variable {goesOn : σ → σ → Prop} {start last next : σ} {visited : List σ}

theorem Leads.further (h : Leads goesOn start visited last) (on : goesOn last next) :
    Leads goesOn start (visited ++ [last]) next := by
  induction h with
  | here s => exact .onward on (.here next)
  | onward first _ ih => exact .onward first (ih on)

/-- From every state that is passed the repetition goes on. -/
theorem Leads.goesOn_of_mem {s : σ} (h : Leads goesOn start visited last) (mem : s ∈ visited) :
    ∃ next, goesOn s next := by
  induction h with
  | here => cases mem
  | @onward s t last visited first _ ih =>
    obtain rfl | mem := List.mem_cons.1 mem
    · exact ⟨t, first⟩
    · exact ih mem

/-- An endless repetition passes through as many states as one likes. Induction on their number. -/
theorem Endless.exists_leads (h : Endless goesOn start) (steps : Nat) :
    ∃ visited last, visited.length = steps ∧ Leads goesOn start visited last := by
  induction steps with
  | zero => exact ⟨[], start, rfl, .here start⟩
  | succ steps ih =>
    obtain ⟨visited, last, length, leads⟩ := ih
    obtain ⟨next, on⟩ := h visited last leads
    refine ⟨visited ++ [last], next, ?_, leads.further on⟩
    rw [List.length_append, length, List.length_singleton]

/-! ## The chain of its steps -/

/-- Computations one after the other, of which the last yields the value. -/
def inTurn (earlier : List (m β)) (last : m α) : m α :=
  earlier.foldr (fun x rest => x >>= fun _ => rest) last

variable [LawfulEffect m] {step : σ → m (Flow σ α)}

/-- A repetition is the chain of the steps that go on, up to any state to which it leads. -/
theorem unroll_of_leads (steps : ∀ s t, goesOn s t → Outcomes.lawful.Always (· = .again t) (step s))
    (leads : Leads goesOn start visited last) (bound : Nat) :
    unroll step (visited.length + bound) start =
      inTurn (visited.map step) (unroll step bound last) := by
  induction leads with
  | here s =>
    rw [List.length_nil, Nat.zero_add]
    rfl
  | @onward s t last visited first _ ih =>
    rw [List.length_cons, Nat.add_right_comm, unroll]
    -- The step can only go on to `t`, so what follows it is known beforehand.
    refine Outcomes.bind_congr_of_always (steps s t first) ?_
    rintro _ rfl
    exact ih

/-- The property holds of the repetition by the loop of the effect, and of the one by chains. -/
def EitherWay (step : σ → m (Flow σ α)) (bound : Nat) (start : σ) (P : m (Option α) → Prop) :
    Prop :=
  P (Effect.iterate step bound start) ∧ P (unroll step bound start)

theorem EitherWay.of_unroll {bound : Nat} {P : m (Option α) → Prop}
    (h : P (unroll step bound start)) : EitherWay step bound start P :=
  ⟨(LawfulEffect.iterate_eq step bound start).symm ▸ h, h⟩

/-- Both ways are told once it is known what the chain of steps is, for any number of steps more
than it takes. -/
theorem EitherWay.of_enough {steps : Nat} {P : m (Option α) → Prop}
    (h : ∀ spare, P (unroll step (steps + (spare + 1)) start)) {bound : Nat}
    (enough : steps < bound) : EitherWay step bound start P := by
  obtain ⟨spare, rfl⟩ := Nat.exists_eq_add_of_lt enough
  exact .of_unroll (h spare)

end Flow

/-! ## The effects with loops

What a repetition comes to in each of them, by the states through which it leads: the outputs of the
steps that went on stand before those of what is left to do. -/

section Plain

variable {step : σ → Plain (Flow σ α)} {start last : σ} {visited : List σ}

theorem Plain.inTurn_eq (earlier : List (Plain β)) (last : Plain α) :
    Flow.inTurn earlier last = ⟨last.value, earlier.flatMap events ++ last.events⟩ := by
  induction earlier with
  | nil => rfl
  | cons x earlier ih =>
    show (x >>= fun _ => Flow.inTurn earlier last) = _
    rw [ih]
    apply Plain.ext
    · rfl
    · simp

theorem Plain.unroll_of_leads
    (leads : Flow.Leads (fun s t => (step s).value = .again t) start visited last) (bound : Nat) :
    Flow.unroll step (visited.length + bound) start =
      ⟨(Flow.unroll step bound last).value,
        (visited.flatMap fun s => (step s).events) ++ (Flow.unroll step bound last).events⟩ := by
  rw [Flow.unroll_of_leads (fun s t on => always_iff.2 on) leads, inTurn_eq, List.flatMap_map]

/-- What a step ends is done. -/
theorem Plain.unroll_done {a : α} (h : (step last).value = .done a) (bound : Nat) :
    Flow.unroll step (bound + 1) last = ⟨some a, (step last).events⟩ := by
  rw [Flow.unroll]
  apply Plain.ext <;> simp [h]

end Plain

section Logged

variable {ω : Type} {step : σ → Logged ω (Flow σ α)} {start last : σ} {visited : List σ}

theorem Logged.inTurn_eq (earlier : List (Logged ω β)) (last : Logged ω α) :
    Flow.inTurn earlier last =
      ⟨last.value, earlier.flatMap log ++ last.log, earlier.flatMap events ++ last.events⟩ := by
  induction earlier with
  | nil => rfl
  | cons x earlier ih =>
    show (x >>= fun _ => Flow.inTurn earlier last) = _
    rw [ih]
    apply Logged.ext
    · rfl
    · simp
    · simp

theorem Logged.unroll_of_leads
    (leads : Flow.Leads (fun s t => (step s).value = .again t) start visited last) (bound : Nat) :
    Flow.unroll step (visited.length + bound) start =
      ⟨(Flow.unroll step bound last).value,
        (visited.flatMap fun s => (step s).log) ++ (Flow.unroll step bound last).log,
        (visited.flatMap fun s => (step s).events) ++ (Flow.unroll step bound last).events⟩ := by
  rw [Flow.unroll_of_leads (fun s t on => always_iff.2 on) leads, inTurn_eq, List.flatMap_map,
    List.flatMap_map]

theorem Logged.unroll_done {a : α} (h : (step last).value = .done a) (bound : Nat) :
    Flow.unroll step (bound + 1) last = ⟨some a, (step last).log, (step last).events⟩ := by
  rw [Flow.unroll]
  apply Logged.ext <;> simp [h]

end Logged

section Abortable

variable {ε : Type} {step : σ → Abortable ε (Flow σ α)} {start last : σ} {visited : List σ}

/-- As long as none of them aborts, computations are run one after the other. -/
theorem Abortable.inTurn_eq {earlier : List (Abortable ε β)}
    (values : ∀ x ∈ earlier, ∃ b, x.result = .ok b) (last : Abortable ε α) :
    Flow.inTurn earlier last = ⟨last.result, earlier.flatMap events ++ last.events⟩ := by
  induction earlier with
  | nil => rfl
  | cons x earlier ih =>
    obtain ⟨⟨b, result⟩, others⟩ := List.forall_mem_cons.1 values
    obtain ⟨_, events⟩ := x
    cases result
    show (⟨.ok b, events⟩ >>= fun _ => Flow.inTurn earlier last) = _
    rw [ih others, ok_bind, List.flatMap_cons, List.append_assoc]

theorem Abortable.unroll_of_leads
    (leads : Flow.Leads (fun s t => (step s).result = .ok (.again t)) start visited last)
    (bound : Nat) :
    Flow.unroll step (visited.length + bound) start =
      ⟨(Flow.unroll step bound last).result,
        (visited.flatMap fun s => (step s).events) ++ (Flow.unroll step bound last).events⟩ := by
  have values : ∀ x ∈ visited.map step, ∃ flow, x.result = .ok flow := by
    intro x mem
    obtain ⟨s, passed, rfl⟩ := List.mem_map.1 mem
    obtain ⟨next, on⟩ := leads.goesOn_of_mem passed
    exact ⟨.again next, on⟩
  have steps (s t : σ) (on : (step s).result = .ok (.again t)) :
      Outcomes.lawful.Always (· = .again t) (step s) :=
    always_iff.2 fun flow value => Except.ok.inj (value.symm.trans on)
  rw [Flow.unroll_of_leads steps leads, inTurn_eq values, List.flatMap_map]

/-- What a step ends, or aborts, is done. -/
theorem Abortable.unroll_done {outcome : Except ε α}
    (h : (step last).result = outcome.map .done) (bound : Nat) :
    Flow.unroll step (bound + 1) last = ⟨outcome.map some, (step last).events⟩ := by
  rw [Flow.unroll]
  generalize step last = x at h
  obtain ⟨result, events⟩ := x
  cases h
  cases outcome with
  | error reason => rfl
  | ok a =>
    -- What follows the step reports nothing more.
    show (⟨.ok (some a), events ++ []⟩ : Abortable ε (Option α)) = ⟨.ok (some a), events⟩
    rw [List.append_nil]

end Abortable

/-! ## Either way -/

/-- A repetition comes to the same by the loop of its effect and by a chain of bound steps.

If it leads through some states to one whose step ends it, or aborts it, and if it may take more
steps than those that go on, it has the value or the reason of the last step, and what all steps
have written and reported in their order. If it is endless it has no result, however many steps it
may take. -/
theorem Flow.loop_is_chain (start : σ) :
    (∀ step : σ → Plain (Flow σ α),
      (∀ visited last a, Leads (fun s t => (step s).value = .again t) start visited last →
        (step last).value = .done a → ∀ bound, visited.length < bound →
          EitherWay step bound start
            (· = ⟨some a, (visited ++ [last]).flatMap fun s => (step s).events⟩)) ∧
        (Endless (fun s t => (step s).value = .again t) start →
          ∀ bound, EitherWay step bound start (·.value = none))) ∧
      (∀ {ω : Type} (step : σ → Logged ω (Flow σ α)),
        (∀ visited last a, Leads (fun s t => (step s).value = .again t) start visited last →
          (step last).value = .done a → ∀ bound, visited.length < bound →
            EitherWay step bound start
              (· = ⟨some a, (visited ++ [last]).flatMap fun s => (step s).log,
                (visited ++ [last]).flatMap fun s => (step s).events⟩)) ∧
          (Endless (fun s t => (step s).value = .again t) start →
            ∀ bound, EitherWay step bound start (·.value = none))) ∧
      ∀ {ε : Type} (step : σ → Abortable ε (Flow σ α)),
        (∀ visited last (outcome : Except ε α),
          Leads (fun s t => (step s).result = .ok (.again t)) start visited last →
            (step last).result = outcome.map .done → ∀ bound, visited.length < bound →
              EitherWay step bound start
                (· = ⟨outcome.map some, (visited ++ [last]).flatMap fun s => (step s).events⟩)) ∧
          (Endless (fun s t => (step s).result = .ok (.again t)) start →
            ∀ bound, EitherWay step bound start (·.result = .ok none)) := by
  refine ⟨fun step => ⟨?_, ?_⟩, fun step => ⟨?_, ?_⟩, fun step => ⟨?_, ?_⟩⟩
  · intro visited last a leads ended bound enough
    refine .of_enough (fun spare => ?_) enough
    rw [Plain.unroll_of_leads leads, Plain.unroll_done ended, List.flatMap_append,
      List.flatMap_singleton]
  · intro endless bound
    obtain ⟨visited, last, rfl, leads⟩ := endless.exists_leads bound
    exact .of_unroll (congrArg Plain.value (Plain.unroll_of_leads leads 0))
  · intro visited last a leads ended bound enough
    refine .of_enough (fun spare => ?_) enough
    rw [Logged.unroll_of_leads leads, Logged.unroll_done ended, List.flatMap_append,
      List.flatMap_append, List.flatMap_singleton, List.flatMap_singleton]
  · intro endless bound
    obtain ⟨visited, last, rfl, leads⟩ := endless.exists_leads bound
    exact .of_unroll (congrArg Logged.value (Logged.unroll_of_leads leads 0))
  · intro visited last outcome leads ended bound enough
    refine .of_enough (fun spare => ?_) enough
    rw [Abortable.unroll_of_leads leads, Abortable.unroll_done ended, List.flatMap_append,
      List.flatMap_singleton]
  · intro endless bound
    obtain ⟨visited, last, rfl, leads⟩ := endless.exists_leads bound
    exact .of_unroll (congrArg Abortable.result (Abortable.unroll_of_leads leads 0))

theorem Flow.loop_is_chain_climb :
    let telling : Nat × Nat → Logged String (Flow (Nat × Nat) (Nat × Nat)) :=
      Script.climbStep 3 (some 2)
    let stopping : Nat × Nat → Abortable String (Flow (Nat × Nat) (Nat × Nat)) :=
      Script.climbStep 3 (some 2)
    let counting : Nat → Plain (Flow Nat Unit) := fun n => ⟨.again (n + 1), []⟩
    Leads (fun s t => (telling s).value = .again t) (0, 0) [(0, 0), (1, 1), (2, 2)] (3, 3) ∧
      (telling (3, 3)).value = .done (3, 3) ∧
      EitherWay telling 4 (0, 0) (· = ⟨some (3, 3), ["0", "2"], []⟩) ∧
      Leads (fun s t => (stopping s).result = .ok (.again t)) (1, 0) [(1, 0)] (2, 1) ∧
      (stopping (2, 1)).result = .error "2" ∧
      EitherWay stopping 4 (1, 0) (· = ⟨.error "2", []⟩) ∧
      Endless (fun s t => (counting s).value = .again t) 0 ∧
      EitherWay counting 4 0 (·.value = none) := by
  intro telling stopping counting
  have told : Leads (fun s t => (telling s).value = .again t) (0, 0) [(0, 0), (1, 1), (2, 2)]
      (3, 3) := .onward rfl (.onward rfl (.onward rfl (.here _)))
  have stopped : Leads (fun s t => (stopping s).result = .ok (.again t)) (1, 0) [(1, 0)] (2, 1) :=
    .onward rfl (.here _)
  have endless : Endless (fun s t => (counting s).value = .again t) 0 := fun _ last _ =>
    ⟨last + 1, rfl⟩
  refine ⟨told, rfl, ?_, stopped, rfl, ?_, endless, ?_⟩
  · exact ((Flow.loop_is_chain (0, 0)).2.1 telling).1 _ _ _ told rfl 4 (by decide)
  · exact ((Flow.loop_is_chain (1, 0)).2.2 stopping).1 _ _ (.error "2") stopped rfl 4 (by decide)
  · exact ((Flow.loop_is_chain 0).1 counting).2 endless 4

end Descent
