import RecordMapper.Proofs.Bulk.Deletions

/-!
# The parameters of a bulk deletion

An engine accepts a limited number of parameters for each statement, and a bulk deletion does not
ask for this limit.

* `issued_deletions` says what the statements bind, and `first_deletion` how many parameters the
  first of them has.
* `deletions_within_limit` says when the limit is kept, and `deletion_beyond_limit` that the default
  settings do not keep it.
-/

namespace RecordMapper

/-- The first chunk has as many items as there are, up to the size. -/
theorem exists_numberedChunks_cons {α : Type} (size : UInt64) {items : List α}
    (some : items ≠ []) :
    ∃ chunk rest, numberedChunks size items = chunk :: rest ∧
      chunk.length = min (max size.toNat 1) items.length := by
  obtain ⟨x, more, rfl⟩ := List.exists_cons_of_ne_nil some
  have cut : ∃ rest, numberedChunks size (x :: more)
      = numbered (0 * max size.toNat 1) (x :: more.take (max size.toNat 1 - 1)) :: rest := by
    rw [numberedChunks, chunksOf, numbered_cons, List.map_cons]
    exact ⟨_, rfl⟩
  obtain ⟨rest, cut⟩ := cut
  refine ⟨_, _, cut, ?_⟩
  rw [numbered, List.length_map, List.length_zipIdx, List.length_cons, List.length_take,
    List.length_cons]
  omega

/-- Where there is an item, there is a part. -/
theorem Accounts.parts_ne_nil {β γ : Type} {law : β → Conversation → Except Error γ → Prop}
    {first : β → Nat} {entries : β → Error → List BulkFailure} {options : BulkOptions}
    {items : List β} {before : List BulkFailure} {parts : List (Part β γ)} {xs : Conversation}
    {result : Except Error BulkReport}
    (h : Accounts law first entries options items before parts xs result) (some : items ≠ []) :
    parts ≠ [] := by
  rintro rfl
  have all := (h.finished (.inr (by simp))).1
  exact some (by simpa using all.symm)

/-! ## The statements of a bulk deletion -/

theorem Deletion.statements_exchange {σ : Type} (m : Model σ) (ds : List Deletion) :
    (ds.map (Deletion.exchange m)).map (·.1) = ds.map (Deletion.statement m) :=
  List.map_map

section

variable {σ : Type} {m : Model σ}

/-- **What the statements bind**: some of the keys, next to each other and not more than a chunk
has. -/
theorem issued_deletions (hm : m.hooks = {}) (ids : List Value) (options : BulkOptions)
    (w : World σ) :
    ∀ s ∈ (m.bulkDelete ids options).issued w, ∃ keys : List Value, keys <:+: ids ∧ keys ≠ [] ∧
      s = .deleteKeys m.table m.schema.keyName keys ∧ s.params.length = keys.length ∧
      s.params.length ≤ min (options.size m.settings.bulk.deleteChunk) ids.length := by
  obtain ⟨xs, result, w', run, ds, deletes⟩ := Model.follows_deletions hm ids options w
  rw [run.statements, deletes.said, Deletion.statements_exchange]
  intro s mem
  obtain ⟨d, there, rfl⟩ := List.mem_map.1 mem
  have chunk := deletes.inTurn.subset (List.mem_map_of_mem there)
  obtain ⟨nonempty, few⟩ := deletes.bounds d there
  have piece : d.keys <:+: numbered 0 ids := by
    rw [← flatten_numberedChunks (options.chunkSize.getD m.settings.bulk.deleteChunk) ids]
    exact List.infix_of_mem_flatten chunk
  have keys := piece.map Prod.snd
  rw [map_snd_numbered] at keys
  have length : (d.keys.map (·.2)).length = d.keys.length := List.length_map _
  refine ⟨d.keys.map (·.2), keys, by simpa using nonempty, by rw [Deletion.statement], ?_, ?_⟩
  · rw [Deletion.length_params, length]
  · rw [Deletion.length_params]
    exact Nat.le_min.2 ⟨few, length ▸ keys.length_le⟩

/-- The first statement binds as many keys as there are, up to the size of a chunk. -/
theorem first_deletion (hm : m.hooks = {}) {ids : List Value} (some : ids ≠ [])
    (options : BulkOptions) (w : World σ) :
    ∃ s ∈ (m.bulkDelete ids options).issued w,
      s.params.length = min (options.size m.settings.bulk.deleteChunk) ids.length := by
  obtain ⟨xs, result, w', run, ds, deletes⟩ := Model.follows_deletions hm ids options w
  obtain ⟨chunk, rest, cut, length⟩ := exists_numberedChunks_cons
    (options.chunkSize.getD m.settings.bulk.deleteChunk) some
  have begun : ds ≠ [] := by
    simpa using deletes.accounts.parts_ne_nil (cut ▸ List.cons_ne_nil chunk rest)
  obtain ⟨d, more, rfl⟩ := List.exists_cons_of_ne_nil begun
  have inTurn := deletes.inTurn
  rw [cut] at inTurn
  obtain ⟨rfl, -⟩ := List.cons_prefix_cons.1 inTurn
  refine ⟨d.statement m, ?_, ?_⟩
  · rw [run.statements, deletes.said, Deletion.statements_exchange]
    exact List.mem_cons_self
  · rw [Deletion.length_params, length, BulkOptions.size]

end

/-- **The parameters of a bulk deletion.** Rows are deleted by their keys, in a model without hooks.
Every statement binds some keys that stand next to each other, at least one and not more than a
chunk has; the limit of the engine is not asked for. So every statement keeps the limit exactly if a
chunk is not larger than the limit allows, or there are not more keys than it allows. -/
theorem deletions_within_limit {σ : Type} {m : Model σ} (hm : m.hooks = {}) (ids : List Value)
    (options : BulkOptions) (w : World σ) :
    (∀ s ∈ (m.bulkDelete ids options).issued w, ∃ keys : List Value, keys <:+: ids ∧ keys ≠ [] ∧
      s = .deleteKeys m.table m.schema.keyName keys ∧ s.params.length = keys.length ∧
      s.params.length ≤ min (options.size m.settings.bulk.deleteChunk) ids.length) ∧
    ((∀ s ∈ (m.bulkDelete ids options).issued w,
        s.params.length ≤ m.settings.maxParameters.toNat) ↔
      options.size m.settings.bulk.deleteChunk ≤ m.settings.maxParameters.toNat ∨
        ids.length ≤ m.settings.maxParameters.toNat) := by
  have bound := issued_deletions hm ids options w
  refine ⟨bound, fun within => ?_, fun small s mem => ?_⟩
  · by_cases none : ids = []
    · exact .inr (by simp [none])
    · -- The first statement is as large as they get.
      obtain ⟨s, mem, length⟩ := first_deletion hm none options w
      have kept := within s mem
      omega
  · obtain ⟨keys, -, -, -, -, few⟩ := bound s mem
    omega

/-! ### A hundred and one badges -/

/-- The keys of a hundred and one badges. -/
def manyBadges : List Value :=
  (List.range 101).map fun n => .int (Int64.ofNat n)

/-- In chunks of a hundred keys they are deleted within the limit. -/
theorem badges_within_limit :
    badges.hooks = {} ∧ ∀ s ∈ (badges.bulkDelete manyBadges { chunkSize := some 100 }).issued
      badgesWorld, s.params.length ≤ badges.settings.maxParameters.toNat :=
  ⟨rfl, (deletions_within_limit (m := badges) rfl manyBadges { chunkSize := some 100 }
    badgesWorld).2.2 (.inl (by decide))⟩

/-- **The limit is passed** with the default settings: all the keys are bound by one statement,
which has one parameter more than the engine accepts. -/
theorem deletion_beyond_limit :
    badges.hooks = {} ∧ badges.settings = {} ∧ 1 ≤ badges.settings.maxParameters ∧
      ∃ s ∈ (badges.bulkDelete manyBadges {}).issued badgesWorld,
        badges.settings.maxParameters.toNat < s.params.length := by
  have some : manyBadges ≠ [] := by decide
  have many : min (BulkOptions.size {} badges.settings.bulk.deleteChunk) manyBadges.length
      = 101 := by decide
  obtain ⟨s, mem, length⟩ := first_deletion (m := badges) rfl some {} badgesWorld
  rw [many] at length
  exact ⟨rfl, rfl, by decide, s, mem, by rw [length]; decide⟩

end RecordMapper
