import Mathlib.Data.List.DropRight
import RecordMapper.Engine.Recorder
import RecordMapper.Proofs.Model.Runs

/-!
# Recorders in use

What a recorder answers and records, in whatever order it is used.

* `Recorder.Use` are the ways to use a recorder, `Recorder.Turn` is a use with what came of it, and
  `Recorder.history` are the turns of uses one after another.
* `Recorder.used`, `Recorder.pushed`, `Recorder.forwarded` and `Recorder.sinceCleared` read off a
  history which answers were used and which were added, what the wrapped engine was asked, and what
  is on record.
* `Recorder.Account` ties a recorder to its history. `Recorder.Account.turn` is one step of it.
* `recorder_keeps_account` puts this together: every turn is as its past asks for
  (`Recorder.Follows`), and the recorder accounts for the whole history.
-/

namespace RecordMapper

namespace Recorder

variable {σ : Type}

/-! ## Uses and turns -/

/-- A use of a recorder. -/
inductive Use where
  /-- A statement is put to it. -/
  | execute (s : Statement)
  /-- An answer is added at the end of its script. -/
  | push (answer : Answer)
  /-- It forgets what it has recorded. -/
  | clear
  /-- It is asked what it has recorded. -/
  | statements
deriving DecidableEq, Repr

/-- A use, with what came of it. -/
inductive Turn where
  /-- A statement was answered from the script. -/
  | scripted (s : Statement) (answer : Answer)
  /-- The script had run out when a statement came, and this is what was answered. -/
  | forwarded (s : Statement) (answer : Answer)
  /-- An answer was added. -/
  | pushed (answer : Answer)
  /-- The record was cleared. -/
  | cleared
  /-- These statements were on record. -/
  | listed (statements : List Statement)
deriving DecidableEq

/-- The use of a turn. -/
def Turn.use : Turn → Use
  | .scripted s _ | .forwarded s _ => .execute s
  | .pushed answer => .push answer
  | .cleared => .clear
  | .listed _ => .statements

/-- What comes of a use, and the recorder after it; without a wrapped engine replies are empty. -/
def turn (wrapped : Option (Engine σ)) (r : Recorder σ) : Use → Turn × Recorder σ
  | .execute s =>
    let (answer, next) := engine (wrapped.getD .silent) s r
    (if r.script.isEmpty then .forwarded s answer else .scripted s answer, next)
  | .push answer => (.pushed answer, r.push answer)
  | .clear => (.cleared, r.clear)
  | .statements => (.listed r.statements, r)

/-- What comes of uses one after another, and the recorder after them. -/
def history (wrapped : Option (Engine σ)) : Recorder σ → List Use → List Turn × Recorder σ
  | r, [] => ([], r)
  | r, use :: rest =>
    let (first, next) := r.turn wrapped use
    let (later, last) := history wrapped next rest
    (first :: later, last)

/-! ## What a history tells -/

namespace Turn

/-- The answer of the script that was used. -/
def used? : Turn → Option Answer
  | .scripted _ answer => some answer
  | _ => none

/-- The answer that was added. -/
def pushed? : Turn → Option Answer
  | .pushed answer => some answer
  | _ => none

/-- The statement that came when the script had run out, with its answer. -/
def forwarded? : Turn → Option (Statement × Answer)
  | .forwarded s answer => some (s, answer)
  | _ => none

/-- The statement, however it was answered. -/
def statement? : Turn → Option Statement
  | .scripted s _ | .forwarded s _ => some s
  | _ => none

end Turn

/-- The answers that were used, in order. -/
def used (past : List Turn) : List Answer :=
  past.filterMap Turn.used?

/-- The answers that were added, in order. -/
def pushed (past : List Turn) : List Answer :=
  past.filterMap Turn.pushed?

/-- The statements that came when the script had run out, with their answers, in order. -/
def forwarded (past : List Turn) : List (Statement × Answer) :=
  past.filterMap Turn.forwarded?

/-- The statements since the record was last cleared, in order. -/
def sinceCleared (past : List Turn) : List Statement :=
  (past.rtakeWhile (· ≠ .cleared)).filterMap Turn.statement?

section

variable (past : List Turn) (t : Turn)

theorem used_concat : used (past ++ [t]) = used past ++ t.used?.toList := by
  cases t <;> simp [used, Turn.used?]

theorem pushed_concat : pushed (past ++ [t]) = pushed past ++ t.pushed?.toList := by
  cases t <;> simp [pushed, Turn.pushed?]

theorem forwarded_concat : forwarded (past ++ [t]) = forwarded past ++ t.forwarded?.toList := by
  cases t <;> simp [forwarded, Turn.forwarded?]

theorem sinceCleared_cleared : sinceCleared (past ++ [.cleared]) = [] := by
  rw [sinceCleared, List.rtakeWhile_concat_neg _ _ _ (by simp)]
  rfl

theorem sinceCleared_concat (h : t ≠ .cleared) :
    sinceCleared (past ++ [t]) = sinceCleared past ++ t.statement?.toList := by
  rw [sinceCleared, List.rtakeWhile_concat_pos _ _ _ (by simpa using h), List.filterMap_append]
  cases t <;> rfl

end

/-- The answer of the wrapped engine after what it was asked in the past, or an empty reply. -/
def fallback (wrapped : Option (Engine σ)) (inner : σ) (past : List Turn) (s : Statement) :
    Answer :=
  match wrapped with
  | some engine => (engine s (engine.after ((forwarded past).map (·.1)) inner)).1
  | none => .ok {}

/-- What a turn is after the turns of the past. A statement is given the oldest answer that was not
used yet, of all that were in the script to begin with or were added since; where every one of them
was used, it is given that of the wrapped engine. -/
def Follows (wrapped : Option (Engine σ)) (script : List Answer) (inner : σ) (past : List Turn) :
    Turn → Prop
  | .scripted _ answer => ∃ later, script ++ pushed past = used past ++ answer :: later
  | .forwarded s answer =>
    script ++ pushed past = used past ∧ answer = fallback wrapped inner past s
  | .pushed _ | .cleared => True
  | .listed statements => statements = sinceCleared past

/-- A recorder accounts for its history. -/
structure Account (wrapped : Option (Engine σ)) (script : List Answer) (inner : σ)
    (past : List Turn) (r : Recorder σ) : Prop where
  /-- Every answer was used, or is still to be given. -/
  script : used past ++ r.script = script ++ pushed past
  /-- The wrapped engine was asked what came when the script had run out, and nothing else. -/
  inner : ∀ engine, wrapped = some engine →
    engine.exchanges ((forwarded past).map (·.1)) inner = forwarded past ∧
      engine.after ((forwarded past).map (·.1)) inner = r.inner
  /-- What came since the record was last cleared is on record. -/
  statements : r.statements = sinceCleared past

namespace Account

variable {wrapped : Option (Engine σ)} {script : List Answer} {inner : σ} {past : List Turn}
  {r : Recorder σ}

theorem start (wrapped : Option (Engine σ)) (script : List Answer) (inner : σ) :
    Account wrapped script inner [] { script, inner } where
  script := (List.append_nil script).symm
  inner _ _ := ⟨rfl, rfl⟩
  statements := rfl

/-- A statement that is answered from the script. -/
theorem scripted (h : Account wrapped script inner past r) {answer : Answer} {rest : List Answer}
    (waiting : r.script = answer :: rest) (s : Statement) :
    Follows wrapped script inner past (.scripted s answer) ∧
      Account wrapped script inner (past ++ [.scripted s answer])
        { r with statements := r.statements ++ [s], script := rest } := by
  have all : used past ++ answer :: rest = script ++ pushed past := waiting ▸ h.script
  refine ⟨⟨rest, all.symm⟩, ?_, ?_, ?_⟩
  · simpa [used_concat, pushed_concat, Turn.used?, Turn.pushed?] using all
  · simpa [forwarded_concat, Turn.forwarded?] using h.inner
  · rw [sinceCleared_concat past _ (by simp), ← h.statements]
    rfl

/-- A statement that comes when the script has run out. -/
theorem forwarded (h : Account wrapped script inner past r) (empty : r.script = [])
    (s : Statement) :
    Follows wrapped script inner past (.forwarded s (wrapped.getD .silent s r.inner).1) ∧
      Account wrapped script inner (past ++ [.forwarded s (wrapped.getD .silent s r.inner).1])
        { r with statements := r.statements ++ [s]
                 inner := (wrapped.getD .silent s r.inner).2 } := by
  have all : used past = script ++ pushed past := by simpa [empty] using h.script
  have asked : (wrapped.getD .silent s r.inner).1 = fallback wrapped inner past s := by
    cases wrapped with
    | none => rfl
    | some engine => rw [fallback, (h.inner engine rfl).2, Option.getD_some]
  refine ⟨⟨all.symm, asked⟩, ?_, ?_, ?_⟩
  · simpa [used_concat, pushed_concat, Turn.used?, Turn.pushed?, empty] using all
  · rintro engine rfl
    obtain ⟨exchanges, after⟩ := h.inner engine rfl
    rw [Option.getD_some, forwarded_concat, List.map_append, Engine.exchanges_append,
      Engine.after_append, exchanges, after]
    exact ⟨rfl, rfl⟩
  · rw [sinceCleared_concat past _ (by simp), ← h.statements]
    rfl

/-- An answer that is added. -/
theorem push (h : Account wrapped script inner past r) (answer : Answer) :
    Account wrapped script inner (past ++ [.pushed answer]) (r.push answer) where
  script := by
    have all : used past ++ r.script ++ [answer] = script ++ pushed past ++ [answer] := by
      rw [h.script]
    simpa [used_concat, pushed_concat, Turn.used?, Turn.pushed?, Recorder.push] using all
  inner := by simpa [forwarded_concat, Turn.forwarded?, Recorder.push] using h.inner
  statements := by
    rw [sinceCleared_concat past _ (by simp), ← h.statements]
    exact (List.append_nil _).symm

/-- Clearing the record leaves the script and the wrapped engine as they are. -/
theorem clear (h : Account wrapped script inner past r) :
    Account wrapped script inner (past ++ [.cleared]) r.clear where
  script := by
    simpa [used_concat, pushed_concat, Turn.used?, Turn.pushed?, Recorder.clear] using h.script
  inner := by simpa [forwarded_concat, Turn.forwarded?, Recorder.clear] using h.inner
  statements := (sinceCleared_cleared past).symm

/-- Listing the record changes nothing. -/
theorem listed (h : Account wrapped script inner past r) (statements : List Statement) :
    Account wrapped script inner (past ++ [.listed statements]) r where
  script := by simpa [used_concat, pushed_concat, Turn.used?, Turn.pushed?] using h.script
  inner := by simpa [forwarded_concat, Turn.forwarded?] using h.inner
  statements := by
    rw [sinceCleared_concat past _ (by simp), ← h.statements]
    exact (List.append_nil _).symm

/-- **A turn** is as the past asks for, and is accounted for. -/
theorem turn (h : Account wrapped script inner past r) (use : Use) :
    (r.turn wrapped use).1.use = use ∧
      Follows wrapped script inner past (r.turn wrapped use).1 ∧
      Account wrapped script inner (past ++ [(r.turn wrapped use).1]) (r.turn wrapped use).2 := by
  cases use with
  | execute s =>
    cases waiting : r.script with
    | nil =>
      have same : r.turn wrapped (.execute s)
          = (.forwarded s (wrapped.getD .silent s r.inner).1,
            { r with statements := r.statements ++ [s]
                     inner := (wrapped.getD .silent s r.inner).2 }) := by
        simp [Recorder.turn, engine, waiting]
      rw [same]
      exact ⟨rfl, h.forwarded waiting s⟩
    | cons answer rest =>
      have same : r.turn wrapped (.execute s)
          = (.scripted s answer, { r with statements := r.statements ++ [s], script := rest }) := by
        simp [Recorder.turn, engine, waiting]
      rw [same]
      exact ⟨rfl, h.scripted waiting s⟩
  | push answer => exact ⟨rfl, trivial, h.push answer⟩
  | clear => exact ⟨rfl, trivial, h.clear⟩
  | statements => exact ⟨rfl, h.statements, h.listed r.statements⟩

/-- **Turns one after another**, each as those before it ask for. The induction is on the uses that
are to come, and what lies behind grows with them. -/
theorem history (h : Account wrapped script inner past r) (uses : List Use) :
    (r.history wrapped uses).1.map Turn.use = uses ∧
      (∀ before t after, (r.history wrapped uses).1 = before ++ t :: after →
        Follows wrapped script inner (past ++ before) t) ∧
      Account wrapped script inner (past ++ (r.history wrapped uses).1)
        (r.history wrapped uses).2 := by
  induction uses generalizing past r with
  | nil =>
    refine ⟨rfl, fun before t after split => ?_, by simpa [Recorder.history] using h⟩
    simp [Recorder.history] at split
  | cons use rest ih =>
    obtain ⟨same, follows, next⟩ := h.turn use
    rw [Recorder.history]
    generalize r.turn wrapped use = first at same follows next
    obtain ⟨others, later, last⟩ := ih next
    refine ⟨by rw [List.map_cons, same, others], ?_, by simpa using last⟩
    intro before t after split
    rcases before with _ | ⟨t', before⟩
    · obtain ⟨rfl, -⟩ := List.cons.inj split
      simpa using follows
    · obtain ⟨rfl, tail⟩ := List.cons.inj split
      simpa using later before t after tail

end Account

/-- What a recorder has on record after statements one after another. -/
theorem statements_after (wrapped : Engine σ) (statements : List Statement) (r : Recorder σ) :
    ((engine wrapped).after statements r).statements = r.statements ++ statements := by
  induction statements generalizing r with
  | nil => exact (List.append_nil _).symm
  | cons s rest ih =>
    have first : (engine wrapped s r).2.statements = r.statements ++ [s] := by
      unfold engine
      split <;> rfl
    rw [Engine.after, ih, first, List.append_assoc, List.singleton_append]

/-- **A recorder around a recorder** hands on what comes when its script has run out, and the inner
one has that on record, whatever is cleared outside. -/
theorem wrapped_records {wrapped : Engine σ} {script : List Answer} {inner : Recorder σ}
    {uses : List Use} {turns : List Turn} {r : Recorder (Recorder σ)}
    (h : history (some (engine wrapped)) { script, inner } uses = (turns, r)) :
    r.inner.statements = inner.statements ++ (forwarded turns).map (·.1) := by
  obtain ⟨-, -, account⟩ := (Account.start (some (engine wrapped)) script inner).history uses
  rw [h] at account
  rw [← (account.inner _ rfl).2, statements_after, List.nil_append]

end Recorder

/-- **A recorder keeps its account**, in whatever order it is used. Every statement is given the
oldest answer that was in the script to begin with or was added since and has not been used, if
there is one, and else that of the wrapped engine, or an empty reply where none is wrapped. What was
used and what is still to be given are together what was there and what was added, each once and in
order. The wrapped engine was asked the statements that came when the script had run out, and it is
where they leave it. On record are the statements since it was last cleared, however they were
answered. -/
theorem recorder_keeps_account {σ : Type} (wrapped : Option (Engine σ)) (script : List Answer)
    (inner : σ) (uses : List Recorder.Use) :
    ∃ turns r, Recorder.history wrapped { script, inner } uses = (turns, r) ∧
      turns.map Recorder.Turn.use = uses ∧
      (∀ before t after, turns = before ++ t :: after →
        Recorder.Follows wrapped script inner before t) ∧
      Recorder.used turns ++ r.script = script ++ Recorder.pushed turns ∧
      (∀ e, wrapped = some e →
        e.exchanges ((Recorder.forwarded turns).map (·.1)) inner = Recorder.forwarded turns ∧
          e.after ((Recorder.forwarded turns).map (·.1)) inner = r.inner) ∧
      r.statements = Recorder.sinceCleared turns := by
  obtain ⟨same, follows, account⟩ := (Recorder.Account.start wrapped script inner).history uses
  exact ⟨_, _, rfl, same, follows, account.script, account.inner, account.statements⟩

/-- An answer that comes late is given before the wrapped recorder is asked. -/
example (s t : Statement) (a b : Answer) :
    (Recorder.history (some (Recorder.engine Engine.silent))
      { inner := { script := [b], inner := () } }
      [.push a, .execute s, .clear, .execute t, .statements]).1
      = [.pushed a, .scripted s a, .cleared, .forwarded t b, .listed [t]] := rfl

end RecordMapper
