import Descent.Proofs.Headway
import Descent.Proofs.LongestRow

/-!
# Spans tile what is read

A repeated parser that tells its spans tells where one run ended and the next began. If every run
that succeeds moves on in the text, the spans lie one behind the other without a gap, from where the
repetition began to where it stopped, and their texts are the text that it has read, cut into
pieces.

One step of the repetition adds a span behind those before it (`Parser.foldStep_withSpan_tiled`), so
whole repetitions are tiled (`Parser.many_withSpan_tiled`). The rest is about texts: the two ways to
read the text of a span agree inside of the text and beyond its end, and differ for a span that goes
across the end (`Span.text?_eq_slice_iff`).
-/

namespace Descent

open Deterministic (value?)

/-! ## Spans one behind the other -/

namespace Span

/-- The spans lead from one position to another: the first begins at the one, the last ends at the
other, each begins where the one before it ends, and none is empty. -/
inductive Tiles : Nat → List Span → Nat → Prop where
  | none (position : Nat) : Tiles position [] position
  | next {span : Span} {spans : List Span} {stop : Nat} (holds : span.start < span.stop)
      (others : Tiles span.stop spans stop) : Tiles span.start (span :: spans) stop

variable {spans spans' : List Span} {start mid stop : Nat} {text : String}

theorem Tiles.single (holds : start < stop) : Tiles start [⟨start, stop⟩] stop :=
  @next ⟨start, stop⟩ [] stop holds (.none stop)

theorem Tiles.append (h : Tiles start spans mid) (h' : Tiles mid spans' stop) :
    Tiles start (spans ++ spans') stop := by
  induction h with
  | none position => exact h'
  | next holds _ ih => exact .next holds (ih h')

/-- No span lies outside of the stretch, and each holds a character of it. -/
theorem Tiles.inside (h : Tiles start spans stop) :
    start ≤ stop ∧
      ∀ span ∈ spans, start ≤ span.start ∧ span.start < span.stop ∧ span.stop ≤ stop := by
  induction h with
  | none position => exact ⟨Nat.le_refl _, nofun⟩
  | @next span spans stop holds _ ih =>
    -- Each of the others begins behind the first span, which is not empty.
    obtain ⟨hle, hothers⟩ := ih
    refine ⟨by omega, fun other mem => ?_⟩
    obtain rfl | mem := List.mem_cons.mp mem
    · omega
    · have := hothers other mem
      omega

/-! ### Texts of spans -/

theorem slice_of_inside {span : Span} (ordered : span.start ≤ span.stop)
    (inside : span.stop ≤ text.length) :
    span.slice text = String.ofList ((text.toList.drop span.start).take (span.stop - span.start)) :=
  if_pos ⟨ordered, inside⟩

theorem text?_of_ordered {span : Span} (ordered : span.start ≤ span.stop) :
    span.text? text =
      .ok (String.ofList ((text.toList.drop span.start).take (span.stop - span.start))) := by
  rw [text?, length, if_pos ordered]
  rfl

/-- There are as many characters in the text of a span as the span says. -/
theorem length_slice {span : Span} (ordered : span.start ≤ span.stop)
    (inside : span.stop ≤ text.length) : span.length = .ok (span.slice text).length := by
  rw [length, if_pos ordered, slice_of_inside ordered inside, String.length_ofList,
    List.length_take, List.length_drop, String.length_toList]
  refine congrArg Except.ok ?_
  omega

/-- Both ways to read the text of a span yield the same unless the text ends inside of the span. -/
theorem text?_eq_slice_iff {span : Span} (ordered : span.start ≤ span.stop) (text : String) :
    span.text? text = .ok (span.slice text) ↔
      ¬ (span.start < text.length ∧ text.length < span.stop) := by
  rw [text?_of_ordered ordered]
  by_cases inside : span.stop ≤ text.length
  · -- A span that ends inside of the text is cut out of it in the same way by both.
    rw [slice_of_inside ordered inside]
    exact ⟨fun _ => by omega, fun _ => rfl⟩
  · -- Nothing is sliced, and nothing is there only if the span begins where the text has ended.
    have hslice : span.slice text = "" := if_neg fun h => inside h.2
    rw [hslice, Except.ok.injEq, ← String.toList_inj, String.toList_ofList, String.toList_empty,
      List.take_eq_nil_iff, List.drop_eq_nil_iff, String.length_toList]
    omega

/-- The texts of spans without a gap are the text of the stretch. -/
theorem Tiles.join_slices (h : Tiles start spans stop) (inside : stop ≤ text.length) :
    String.join (spans.map (·.slice text)) =
      String.ofList ((text.toList.drop start).take (stop - start)) := by
  induction h with
  | none position => simp
  | @next span spans stop holds others ih =>
    obtain ⟨hle, _⟩ := others.inside
    -- The stretch is cut where the first span ends, which is where the others begin.
    have hlength : stop - span.start = (span.stop - span.start) + (stop - span.stop) := by omega
    have hbehind : span.start + (span.stop - span.start) = span.stop := by omega
    rw [List.map_cons, String.join_cons, ih inside, slice_of_inside (by omega) (by omega),
      ← String.ofList_append, hlength, List.take_add, List.drop_drop, hbehind]

end Span

/-! ## Stretches of a text -/

namespace Cursor

/-- The whole text. -/
def text (c : Cursor) : String := String.ofList c.source.toList

@[simp] theorem length_text (c : Cursor) : c.text.length = c.limit := by
  rw [text, String.length_ofList, Array.length_toList, limit]

theorem Onward.position_le_length {c d : Cursor} (h : c.Onward d) : d.position ≤ c.text.length := by
  rw [length_text, ← h.limit_eq]
  exact d.position_le_limit

/-- The stretch from the one place to the other is cut into spans without a gap, each with its
text. -/
structure TiledBy (c : Cursor) (spans : List Span) (last : Cursor) : Prop where
  onward : c.Onward last
  tiles : Span.Tiles c.position spans last.position
  join_slices : String.join (spans.map (·.slice c.text)) = c.textUntil last
  each : ∀ span ∈ spans, span.isEmpty = false ∧
    span.length = .ok (span.slice c.text).length ∧ span.text? c.text = .ok (span.slice c.text)

theorem Onward.tiledBy {c last : Cursor} {spans : List Span} (onward : c.Onward last)
    (tiles : Span.Tiles c.position spans last.position) : c.TiledBy spans last where
  onward := onward
  tiles := tiles
  join_slices := by
    -- The text read from the one place to the other is cut out of the rest, not of the whole.
    have read : c.textUntil last = String.ofList (c.rest.take (last.position - c.position)) := by
      rw [← textUntil_advance, ← eq_advance_of_le onward.1.symm onward.2]
    rw [tiles.join_slices onward.position_le_length, read, rest, text, String.toList_ofList]
  each span mem := by
    obtain ⟨_, holds, le⟩ := tiles.inside.2 span mem
    have inside : span.stop ≤ c.text.length := Nat.le_trans le onward.position_le_length
    refine ⟨beq_false_of_ne (Nat.ne_of_lt holds), Span.length_slice (Nat.le_of_lt holds) inside, ?_⟩
    exact (Span.text?_eq_slice_iff (Nat.le_of_lt holds) c.text).mpr fun h => by omega

end Cursor

/-! ## Repetitions that tell their spans -/

/-- The answer of a parser, started at `c`, that has moved on in the text if it succeeded. It has
come to an end unless it may go on for ever. -/
def Reply.Advances {α : Type} (endless : Prop) (c : Cursor) : Reply α → Prop
  | .success _ next => c.Onward next ∧ next ≠ c
  | .failure _ => True
  | .unfinished => endless

/-- The answer of a repetition, started at `c`, whose spans tile what it has read. It has not
failed, and has come to an end unless it may go on for ever. -/
def Reply.Tiled {α : Type} (endless : Prop) (c : Cursor) : Reply (List (α × Span)) → Prop
  | .success items last => c.TiledBy (items.map Prod.snd) last
  | .failure _ => False
  | .unfinished => endless

namespace Parser

variable {m : Type → Type} [Effect m] [LawfulEffect m] {α : Type} {endless : Prop} {p : Parser m α}
  {c d : Cursor}

/-- One more run adds its span behind those before it, and leaves less text. The items stand last
one first, as they do until the repetition has ended. -/
theorem foldStep_withSpan_tiled
    (advances : Outcomes.lawful.Always (Reply.Advances endless d) (p.run d))
    {items : List (α × Span)} (tiled : c.TiledBy (items.reverse.map Prod.snd) d) :
    Outcomes.lawful.Always
      (Flow.Always
        (fun t : List (α × Span) × Cursor =>
          c.TiledBy (t.1.reverse.map Prod.snd) t.2 ∧ t.2.remaining < d.remaining)
        fun reply => (reply.map List.reverse).Tiled endless c)
      (foldStep (fun items a => a :: items) p.withSpan (items, d)) := by
  show Outcomes.lawful.Always _ (_ <$> Reply.withSpan d <$> p.run d)
  rw [Functor.map_map]
  refine Outcomes.lawful.map advances ?_
  rintro (⟨a, next⟩ | e | _) moved
  · -- A success adds a span that is not empty, since the place reached is another one.
    obtain ⟨place, ne⟩ := moved
    have further : d.position < next.position :=
      Nat.lt_of_le_of_ne place.2 fun eq => ne (Cursor.ext place.1 eq.symm)
    have all := tiled.tiles.append (.single further)
    refine .again ⟨(tiled.onward.trans place).tiledBy ?_, place.remaining_lt ne⟩
    rw [List.reverse_cons, List.map_append]
    exact all
  · -- A failure ends the repetition with the spans so far.
    exact .done tiled
  · exact .done moved

/-- The spans of a repetition tile what it has read. Induction on the text that is left. -/
theorem many_withSpan_tiled
    (advances : ∀ d, Outcomes.lawful.Always (Reply.Advances endless d) (p.run d)) (spare : Nat)
    (c : Cursor) :
    Outcomes.lawful.Always (Reply.Tiled endless c) ((many p.withSpan spare).run c) := by
  have steps (s : List (α × Span) × Cursor) (tiled : c.TiledBy (s.1.reverse.map Prod.snd) s.2) :=
    foldStep_withSpan_tiled (advances s.2) tiled
  have start : c.TiledBy [] c := (Cursor.Onward.refl c).tiledBy (.none c.position)
  -- The text that is left bounds the number of runs, so the loop comes to its own end.
  have loop := Settled.iterate (fun s : List (α × Span) × Cursor => s.2.remaining)
    (fun s tiled => ⟨rfl, steps s tiled⟩) (s := ([], c)) start
    (show c.remaining < c.remaining + 1 + spare by omega)
    (show c.remaining < c.remaining + 1 + spare by omega)
  have folded := Outcomes.lawful.map (f := (·.getD .unfinished)) loop.2
    (Q := fun reply => (reply.map List.reverse).Tiled endless c) (by
      rintro _ ⟨reply, rfl, tiled⟩
      exact tiled)
  exact Outcomes.lawful.map folded fun _ tiled => tiled

end Parser

section Grammars

variable {m : Type → Type} [Effect m] [LawfulEffect m] [Deterministic m] {V : Vocabulary}
  {bodies : Bodies V} {perform : (action : V.Action) → Parser m (V.Answer action)} {α : Type}

/-- From some place the parser goes on for ever. -/
def Parser.Unending (p : Parser m α) : Prop := ∃ d, value? (p.run d) = some .unfinished

/-- A grammar keeps to its text, so it advances if its runs that succeed stop at later positions. -/
theorem Bodies.always_advances
    (performs : ∀ action c, Outcomes.lawful.Always (Reply.Within c) ((perform action).run c))
    (looks : ∀ r, (bodies r).LooksWithin) (spare depth : Nat) {g : Grammar V α} (hg : g.LooksWithin)
    (further : ∀ c a d, (bodies.parserAt spare perform depth g).Succeeds c a d →
      c.position < d.position) (c : Cursor) :
    Outcomes.lawful.Always (Reply.Advances (bodies.parserAt spare perform depth g).Unending c)
      ((bodies.parserAt spare perform depth g).run c) := by
  have within := bodies.always_within Outcomes.lawful performs looks spare depth hg c
  -- A reply with the property is needed in case that the run yields none.
  have failing : (Reply.failure (c.failure "") : Reply α).Advances
      (bodies.parserAt spare perform depth g).Unending c := trivial
  refine Deterministic.always_of_value? failing ?_
  rintro (⟨a, d⟩ | e | _) yields
  · -- A success at the start would have to stop at a later position than its own.
    refine ⟨(Deterministic.of_always within yields).onward, ?_⟩
    rintro rfl
    exact Nat.lt_irrefl _ (further d a d yields)
  · trivial
  · exact ⟨c, yields⟩

end Grammars

/-! ## Spans and texts -/

/-- In every effect, the spans of a repeated parser that advances tile what the repetition has read.
A grammar needs no more for this than to get further whenever it succeeds. For spans of any origin,
the two ways to read their text differ exactly if the text ends inside of the span. -/
theorem Parser.repeated_spans_tile {m : Type → Type} [Effect m] [LawfulEffect m] :
    (∀ {α : Type} {endless : Prop} (p : Parser m α),
      (∀ d, Outcomes.lawful.Always (Reply.Advances endless d) (p.run d)) →
        ∀ spare c, Outcomes.lawful.Always (Reply.Tiled endless c) ((many p.withSpan spare).run c)) ∧
      (∀ [Deterministic m] {V : Vocabulary} {bodies : Bodies V}
        {perform : (action : V.Action) → Parser m (V.Answer action)},
        (∀ action c, Outcomes.lawful.Always (Reply.Within c) ((perform action).run c)) →
        (∀ r, (bodies r).LooksWithin) →
        ∀ (spare depth : Nat) {α : Type} (g : Grammar V α), g.LooksWithin →
          (∀ c a d, (bodies.parserAt spare perform depth g).Succeeds c a d →
            c.position < d.position) →
          ∀ c reply,
            value? ((bodies.parserAt spare perform depth (.many (.withSpan g))).run c) =
                some reply →
            reply.Tiled (bodies.parserAt spare perform depth g).Unending c) ∧
      ∀ (span : Span) (text : String), span.start ≤ span.stop →
        (span.text? text = .ok (span.slice text) ↔
          ¬ (span.start < text.length ∧ text.length < span.stop)) := by
  refine ⟨fun p advances spare c => many_withSpan_tiled advances spare c, ?_,
    fun span text ordered => Span.text?_eq_slice_iff ordered text⟩
  intro _ V bodies perform performs looks spare depth α g hg further c reply yields
  have advances := Bodies.always_advances performs looks spare depth hg further
  exact Deterministic.of_always (many_withSpan_tiled advances spare c) yields

/-- Fields of a text with characters of several widths, each up to its comma, and spans that lie
inside of the text, across its end and behind it. -/
theorem Parser.repeated_spans_tile_fields :
    let perform : String → Parser (Logged String) Unit := fun entry => .lift (Logged.tell entry)
    let bodies : Bodies (Sample.Nesting.announcing String) := Sample.Nesting.announced "bracket"
    let g : Grammar (Sample.Nesting.announcing String) String :=
      .keepRight (.perform (V := Sample.Nesting.announcing String) "field")
        (.keepLeft (.terminal (.takeWhile1 (· ≠ ','))) (.terminal (.skipChar ',')))
    let field : Parser (Logged String) String := bodies.parserAt 0 perform 1 g
    let fields := bodies.parserAt 0 perform 1 (.many (.withSpan g))
    let c := (Cursor.ofString "(é,ß\n🎈,z").advance 1
    (∀ d, Outcomes.lawful.Always (Reply.Advances False d) (field.run d)) ∧
      Outcomes.lawful.Always (Reply.Tiled False c) ((many field.withSpan).run c) ∧
      (∀ action d, Outcomes.lawful.Always (Reply.Within d) ((perform action).run d)) ∧
      (∀ r, (bodies r).LooksWithin) ∧ g.LooksWithin ∧
      (∀ c a d, field.Succeeds c a d → c.position < d.position) ∧
      fields.Succeeds c [("é", ⟨1, 3⟩), ("ß\n🎈", ⟨3, 7⟩)] (c.advance 6) ∧
      c.TiledBy [⟨1, 3⟩, ⟨3, 7⟩] (c.advance 6) ∧ c.text = "(é,ß\n🎈,z" ∧
      (⟨7, 9⟩ : Span).text? c.text ≠ .ok ((⟨7, 9⟩ : Span).slice c.text) ∧
      (⟨8, 9⟩ : Span).text? c.text = .ok ((⟨8, 9⟩ : Span).slice c.text) := by
  intro perform bodies g field fields c
  obtain ⟨everywhere, grammars, readings⟩ := Parser.repeated_spans_tile (m := Logged String)
  -- A field has at least one character, whatever is told in front of it.
  have headway (d : Cursor) : Headway False d field field :=
    ((Headway.lift _).both fun _ _ _ => (Headway.takeWhile1 _).both fun _ _ _ => .skipChar ',').mono
      fun h => h.2.1
  have advances (d : Cursor) : Outcomes.lawful.Always (Reply.Advances False d) (field.run d) :=
    Outcomes.lawful.mono (headway d).2 fun reply forward => by cases reply <;> exact forward
  have performs (action : String) (d : Cursor) :
      Outcomes.lawful.Always (Reply.Within d) ((perform action).run d) := Parser.lift_within _ _ d
  have looks : ∀ r, (bodies r).LooksWithin := Grammar.every_announced "bracket"
  have hg : g.LooksWithin := ⟨trivial, trivial, trivial⟩
  have further (c : Cursor) (a : String) (d : Cursor) (reads : field.Succeeds c a d) :
      c.position < d.position := (Parser.Strides.of_headway headway c a d reads).2
  have listed : fields.Succeeds c [("é", ⟨1, 3⟩), ("ß\n🎈", ⟨3, 7⟩)] (c.advance 6) := by
    show value? (fields.run c) = _
    decide +kernel
  have tiled : c.TiledBy [⟨1, 3⟩, ⟨3, 7⟩] (c.advance 6) :=
    grammars performs looks 0 1 g hg further c _ listed
  have across : ¬ ((⟨7, 9⟩ : Span).text? c.text = .ok ((⟨7, 9⟩ : Span).slice c.text)) :=
    mt (readings ⟨7, 9⟩ c.text (by decide)).mp (by decide +kernel)
  have behind := (readings ⟨8, 9⟩ c.text (by decide)).mpr (by decide +kernel)
  exact ⟨advances, everywhere field advances 0 c, performs, looks, hg, further, listed, tiled,
    by decide +kernel, across, behind⟩

end Descent
