import Descent.Proofs.Erasure

/-!
# Aborts

A grammar whose actions all abort is run in the aborting effect, and once more in the logging
effect, where each action writes down the reason for which it would have aborted. The logged run
goes on where the other one stops, so what can be compared is how far the aborting run gets: to the
end, with the same reply, when nothing is logged, and otherwise to the first entry of the log
(`Abortable.Reaches`).

No combinator recovers from an abort, since what is kept by chains is kept by all combinators: once
a computation has stopped, so has every chain that begins with it.
-/

namespace Descent

/-- An aborting computation gets as far as the log of another one allows: if nothing is logged both
have values, which agree, and if something is, the first entry is the reason to stop. Events are
reported alike up to there. -/
inductive Abortable.Reaches {ε α β : Type} (seen : Event → Event → Prop) (R : α → β → Prop) :
    Logged ε α → Abortable ε β → Prop where
  | finished {a : α} {b : β} {events events' : List Event} (value : R a b)
      (reports : List.Forall₂ seen events events') :
      Reaches seen R ⟨a, [], events⟩ ⟨.ok b, events'⟩
  | stopped {a : α} {reason : ε} {log : List ε} {events later events' : List Event}
      (reports : List.Forall₂ seen events events') :
      Reaches seen R ⟨a, reason :: log, events ++ later⟩ ⟨.error reason, events'⟩

namespace Abortable.Reaches

variable {ε α β γ δ : Type} {seen : Event → Event → Prop} {R : α → β → Prop} {S : γ → δ → Prop}
  {x : Logged ε α} {y : Abortable ε β}

theorem mono {T : α → β → Prop} (h : Reaches seen R x y) (weaker : ∀ a b, R a b → T a b) :
    Reaches seen T x y := by
  cases h with
  | finished value reports => exact .finished (weaker _ _ value) reports
  | stopped reports => exact .stopped reports

/-- A chain gets as far as its first link, and from its end as far as the second. -/
theorem bind {f : α → Logged ε γ} {g : β → Abortable ε δ} (h : Reaches seen R x y)
    (next : ∀ a b, R a b → Reaches seen S (f a) (g b)) : Reaches seen S (x >>= f) (y >>= g) := by
  cases h with
  | @finished a b events events' value reports =>
    have second := next a b value
    -- The chain reports what the first link does, then what the second does.
    rw [ok_bind]
    show Reaches seen S ⟨(f a).value, (f a).log, events ++ (f a).events⟩ _
    generalize f a = x' at second ⊢
    generalize g b = y' at second ⊢
    cases second with
    | finished value' reports' => exact .finished value' (List.rel_append reports reports')
    | stopped reports' =>
      rw [← List.append_assoc]
      exact .stopped (List.rel_append reports reports')
  | @stopped a reason log events later events' reports =>
    -- The second link is not run at all, whatever the logged run goes on to do.
    rw [error_bind]
    show Reaches seen S
      ⟨(f a).value, reason :: (log ++ (f a).log), events ++ later ++ (f a).events⟩ _
    rw [List.append_assoc]
    exact .stopped reports

/-- How the aborting computation ends, read off the log. -/
theorem result_eq {y : Abortable ε α} (h : Reaches seen Eq x y) :
    y.result = match x.log with
      | [] => .ok x.value
      | reason :: _ => .error reason := by
  cases h with
  | finished value _ => exact congrArg Except.ok (Eq.symm value)
  | stopped _ => rfl

end Abortable.Reaches

/-- A logged computation and one that stops at the first entry of the log. -/
def Logged.halting (ε : Type) (seen : Event → Event → Prop) :
    Comparison (Logged ε) (Abortable ε) seen :=
  .ofLawful {
    Agree := Abortable.Reaches seen
    mono := .mono
    pure := fun h => .finished h .nil
    bind := .bind
    emit := fun h => .finished trivial (.cons h .nil) }

/-! ## Grammars -/

variable {ε α : Type} {Rule : Type} {Result : Rule → Type}

/-- A grammar that aborts gets as far as the first entry of what it would have logged. -/
theorem Bodies.reaches (bodies : Bodies (.telling Rule Result ε)) (spare depth : Nat)
    (g : Grammar (.telling Rule Result ε) α) (c : Cursor) :
    Abortable.Reaches Eq Eq
      ((bodies.parserAt spare (fun reason => .lift (Logged.tell reason)) depth g).run c)
      ((bodies.parserAt spare (fun reason => .lift (Abortable.abort reason)) depth g).run c) := by
  have performs : ∀ reason : ε, (Parser.lift (Logged.tell reason)).Agree
      (Logged.halting ε View.same.Seen) Eq
      (Parser.lift (Abortable.abort reason : Abortable ε Unit)) := by
    refine fun reason => .lift ?_
    -- The action that aborts stops at the one entry of the log.
    show Abortable.Reaches _ Eq ⟨(), [reason], [] ++ []⟩ _
    exact .stopped .nil
  exact bodies.agree_same (Logged.halting ε View.same.Seen) performs spare depth g c

/-- The first abort decides: a run in which actions abort yields the reply of the run in which they
only log their reasons, if none is logged, and otherwise stops for the first reason in the log. -/
theorem Bodies.first_abort (bodies : Bodies (.telling Rule Result ε)) (spare depth : Nat)
    (g : Grammar (.telling Rule Result ε) α) (c : Cursor) :
    let told : Logged ε (Reply α) :=
      (bodies.parserAt spare (fun reason => .lift (Logged.tell reason)) depth g).run c
    ((bodies.parserAt spare (fun reason => .lift (Abortable.abort reason)) depth g).run c).result =
      match told.log with
      | [] => .ok told.value
      | reason :: _ => .error reason :=
  (bodies.reaches spare depth g c).result_eq

/-- An abort in an alternative that is given up, inside a repetition that goes on without it. No
other alternative is tried after it, and no later reason takes its place. Where nothing is read,
nothing aborts. -/
theorem Bodies.first_abort_given_up :
    let bodies : Bodies (.telling Empty (fun _ => Unit) String) := fun rule => nomatch rule
    let g : Grammar (.telling Empty (fun _ => Unit) String) (List Unit) :=
      .many (.orElse
        (.keepLeft
          (.keepRight (.terminal (.skipChar 'a'))
            (.perform (V := .telling Empty (fun _ => Unit) String) "given up"))
          (.terminal (.skipChar '!')))
        (.keepRight (.terminal .anyChar)
          (.perform (V := .telling Empty (fun _ => Unit) String) "kept")))
    let told (text : String) : Logged String (Reply (List Unit)) :=
      (bodies.parserAt 0 (fun reason => .lift (Logged.tell reason)) 0 g).run (.ofString text)
    let stopped (text : String) : Abortable String (Reply (List Unit)) :=
      (bodies.parserAt 0 (fun reason => .lift (Abortable.abort reason)) 0 g).run (.ofString text)
    (told "ab").log = ["given up", "kept", "kept"] ∧
      (told "ab").value = .success [(), ()] ((Cursor.ofString "ab").advance 2) ∧
      (stopped "ab").result = .error "given up" ∧
      (told "").log = [] ∧ (stopped "").result = .ok (.success [] (.ofString "")) := by
  intro bodies g told stopped
  have hlog : (told "ab").log = ["given up", "kept", "kept"] := by decide +kernel
  have hread : (told "ab").value = .success [(), ()] ((Cursor.ofString "ab").advance 2) := by
    decide +kernel
  have hnothing : (told "").log = [] := by decide +kernel
  have hempty : (told "").value = .success [] (.ofString "") := by decide +kernel
  have first := Bodies.first_abort bodies 0 0 g (.ofString "ab")
  have none := Bodies.first_abort bodies 0 0 g (.ofString "")
  -- The logs say which case of the statement holds.
  simp only [told] at hlog hnothing hempty
  simp only [hlog] at first
  simp only [hnothing, hempty] at none
  exact ⟨hlog, hread, first, hnothing, none⟩

end Descent
