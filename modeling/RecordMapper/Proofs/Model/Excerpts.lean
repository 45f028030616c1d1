import RecordMapper.Proofs.Failure
import RecordMapper.Proofs.Model.Conversation

/-!
# Excerpts of statements

What messages about a status quote of the statement that was rejected.

* `excerpt_of_le` and `excerpt_of_lt`: a statement within the limit is quoted as a whole, and of a
  longer one the beginning with three dots.
* `Excerpted` says what is quoted, for any limit; `excerpted_excerpt` shows it.
* `classify_quotes` and `Model.execute_quotes`: the messages of a status end with such an excerpt.
* `excerpt_is_text_or_marked_cut` puts them together. `dots_pass_short_limits`: where the limit has
  no room for the dots, they pass it.
-/

namespace RecordMapper

/-! ## Excerpts -/

variable {limit : Nat} {sql : String}

theorem excerpt_of_le (fits : sql.length ≤ limit) : excerpt limit sql = sql :=
  if_pos fits

theorem excerpt_of_lt (long : limit < sql.length) :
    excerpt limit sql = String.ofList (sql.toList.take (limit - 3)) ++ "..." :=
  if_neg (Nat.not_le.2 long)

/-- The beginning that is quoted of a longer statement leaves room for the dots, if there is any. -/
theorem length_take_of_lt (long : limit < sql.length) :
    (String.ofList (sql.toList.take (limit - 3))).length = limit - 3 := by
  rw [String.length_ofList, List.length_take, String.length_toList]
  omega

theorem length_excerpt_of_lt (long : limit < sql.length) :
    (excerpt limit sql).length = max limit 3 := by
  have dots : "...".length = 3 := rfl
  rw [excerpt_of_lt long, String.length_append, length_take_of_lt long, dots]
  omega

/-- Where there is no room for anything else, the dots are all that is quoted. -/
theorem excerpt_eq_dots (long : limit < sql.length) (short : limit < 3) :
    excerpt limit sql = "..." := by
  have none : limit - 3 = 0 := by omega
  rw [excerpt_of_lt long, none]
  rfl

/-- **An excerpt is the statement itself** only if that fits, or is nothing but the dots. -/
theorem excerpt_eq_self :
    excerpt limit sql = sql ↔ sql.length ≤ limit ∨ limit < 3 ∧ sql = "..." := by
  rcases Nat.lt_or_ge limit sql.length with long | fits
  · constructor
    · intro same
      have length := length_excerpt_of_lt long
      rw [same] at length
      have short : limit < 3 := by omega
      exact .inr ⟨short, same.symm.trans (excerpt_eq_dots long short)⟩
    · rintro (fits | ⟨short, dots⟩)
      · omega
      · exact (excerpt_eq_dots long short).trans dots.symm
  · exact iff_of_true (excerpt_of_le fits) (.inl fits)

/-- What is quoted of a statement for a limit on the number of characters. -/
structure Excerpted (limit : Nat) (sql quoted : String) : Prop where
  /-- A statement within the limit is quoted as a whole. -/
  whole : sql.length ≤ limit → quoted = sql
  /-- Of a longer one the beginning is quoted and marked with three dots. They take the place of the
  last three characters within the limit, as far as there are that many. -/
  cut : limit < sql.length → ∃ kept : String,
    kept.toList <+: sql.toList ∧ kept.length = limit - 3 ∧ quoted = kept ++ "..."
  /-- What is quoted is within the limit, unless a longer statement meets a limit below three. -/
  within : quoted.length ≤ limit ↔ sql.length ≤ limit ∨ 3 ≤ limit
  /-- Nothing but the dots is beyond the limit. -/
  bounded : quoted.length ≤ max limit 3
  /-- The statement itself is quoted only if it is within the limit, or is nothing but the dots. -/
  itself : quoted = sql ↔ sql.length ≤ limit ∨ limit < 3 ∧ sql = "..."

theorem excerpted_excerpt (limit : Nat) (sql : String) :
    Excerpted limit sql (excerpt limit sql) where
  whole := excerpt_of_le
  cut long := by
    refine ⟨_, ?_, length_take_of_lt long, excerpt_of_lt long⟩
    rw [String.toList_ofList]
    exact List.take_prefix _ _
  within := by
    rcases Nat.lt_or_ge limit sql.length with long | fits
    · rw [length_excerpt_of_lt long]
      omega
    · exact iff_of_true ((excerpt_of_le fits).symm ▸ fits) (.inl fits)
  bounded := by
    rcases Nat.lt_or_ge limit sql.length with long | fits
    · exact Nat.le_of_eq (length_excerpt_of_lt long)
    · rw [excerpt_of_le fits]
      omega
  itself := excerpt_eq_self

/-! ## Messages -/

/-- A message of a class that, if it is about a status, ends with an excerpt of a statement. -/
def FailureKind.Quotes (kind : FailureKind) (message : String) (limit : Nat) (sql : String) :
    Prop :=
  kind.isStatus = true → ∃ status meaning quoted,
    Classification.ofStatus? status = some (kind, meaning) ∧ Excerpted limit sql quoted ∧
      message = meaning ++ " (HTTP " ++ toString status ++ "). SQL: " ++ quoted

open Classification in
/-- **The message of a status** quotes an excerpt of the statement. -/
theorem classify_quotes (schema : Option Schema) (limit : Nat) (raw sql : String) :
    (classify schema limit raw sql).kind.Quotes (classify schema limit raw sql).message limit
      sql := by
  intro remote
  rw [classify_eq] at remote ⊢
  cases said : sense raw with
  | status n kind meaning =>
    exact ⟨n, meaning, _, ofStatus?_of_sense said, excerpted_excerpt limit sql, rfl⟩
  | duplicate =>
    rw [said, Sense.worded, kind_duplicate] at remote
    cases remote
  | missing =>
    rw [said, Sense.worded] at remote
    rcases kind_missing schema (missingField? raw) with k | k <;> rw [k] at remote <;> cases remote
  | foreignKey | check | other =>
    rw [said] at remote
    cases remote

/-- A statement that is put to the engine fails with such a message only, for the limit of the
settings. -/
theorem Model.execute_quotes {σ : Type} (m : Model σ) (s : Statement) (w : World σ) :
    m.Follows (m.execute s) w fun _ result => ∀ e, result = .error e →
      ∃ f, e = .query f ∧ f.kind.Quotes f.message m.settings.excerptLength.toNat s.sql := by
  rw [← bind_pure (m.execute s)]
  refine .execute_bind (fun r e same => ?_) fun reply w' _ _ => .pure nofun
  cases same
  exact ⟨_, rfl, classify_quotes _ _ _ _⟩

/-- **An excerpt is the text or a marked cut.** For every limit, a statement within it is quoted as
it is, and of a longer one the beginning is quoted, marked with three dots; the excerpt is within
the limit unless the limit of a longer statement is below three, and then it is the dots alone. The
messages of a status quote the statement so, for the limit that they are classified with; and every
failure of a statement that is put to an engine has such a message, if it is about a status, for the
limit of the settings. -/
theorem excerpt_is_text_or_marked_cut (limit : Nat) (sql : String) :
    Excerpted limit sql (excerpt limit sql) ∧
    (∀ (schema : Option Schema) (raw : String),
      (classify schema limit raw sql).kind.Quotes (classify schema limit raw sql).message limit
        sql) ∧
    ∀ {σ : Type} (m : Model σ) (params : List Value) (w : World σ),
      m.settings.excerptLength.toNat = limit →
        m.Follows (m.execute ⟨sql, params⟩) w fun _ result => ∀ e, result = .error e →
          ∃ f, e = .query f ∧ f.kind.Quotes f.message limit sql := by
  refine ⟨excerpted_excerpt limit sql, fun schema raw => classify_quotes schema limit raw sql, ?_⟩
  rintro σ m params w rfl
  exact m.execute_quotes ⟨sql, params⟩ w

/-- A table behind a remote engine that is down, with room for a few words of a statement. -/
def gauges : Model Unit where
  schema := ⟨"gauges", [.id "id"], {}, ⟨0, by decide⟩⟩
  engine := fun _ _ => (.error ⟨"HTTP 503"⟩, ())
  settings := { excerptLength := 20 }

/-- A longer statement. -/
def gaugeLookup : Statement :=
  ⟨"SELECT * FROM gauges WHERE id = ?", [.int 1]⟩

/-- The failure of the longer statement is about a status, and its message quotes an excerpt. -/
theorem gauges_are_down :
    gauges.settings.excerptLength.toNat = 20 ∧
      ∃ f, ((gauges.execute gaugeLookup).outcome ⟨(), default, [], []⟩).1 = .error (.query f) ∧
        f.kind.isStatus = true ∧ f.kind.Quotes f.message 20 gaugeLookup.sql := by
  obtain ⟨-, -, statements⟩ := excerpt_is_text_or_marked_cut 20 gaugeLookup.sql
  obtain ⟨xs, result, w', run, fails⟩ :=
    statements gauges gaugeLookup.params ⟨(), default, [], []⟩ rfl
  have ends : ((gauges.execute gaugeLookup).outcome ⟨(), default, [], []⟩).1
      = .error (gauges.failure gaugeLookup.wire ⟨"HTTP 503"⟩) := rfl
  obtain ⟨f, same, quotes⟩ := fails _ ((congrArg Prod.fst run.outcome).symm.trans ends)
  refine ⟨rfl, f, ends.trans (congrArg Except.error same), ?_, quotes⟩
  cases same
  decide +kernel

/-- **The dots pass short limits.** A limit without room for them is passed, by the excerpt and in
the message of a status, also where nothing at all fits; and the dots themselves are quoted as they
are where they do not fit. -/
theorem dots_pass_short_limits :
    excerpt 0 "SELECT 1" = "..." ∧ ¬ (excerpt 0 "SELECT 1").length ≤ 0 ∧
      excerpt 2 "..." = "..." ∧ ¬ "...".length ≤ 2 ∧
      (classify none 0 "HTTP 500" "SELECT 1").message
        = "Server error: the remote engine failed to execute the statement (HTTP 500). SQL: "
          ++ "..." := by
  refine ⟨?_, ?_, ?_, ?_, ?_⟩ <;> decide +kernel

end RecordMapper
