import RecordMapper.Proofs.Sql.Template

/-!
# Slots of a template

A template as slots with copied texts between. A slot is a part that a caller's operand decides: an
assigned value, or a condition with its operand.

* `Template.Lays t slots`: the template consists of these slots, in this order, and of copied texts.
* `Template.Lays.params`: its parameters are those of the slots, one slot after the other.
* `Template.Lays.split` cuts it at a slot; `Template.Lays.bound` says that the placeholders before a
  slot are those of the slots before it, so that the placeholders of a slot get its own operands.
-/

namespace RecordMapper.Template

theorem append_assoc (s t u : Template) : s ++ t ++ u = s ++ (t ++ u) :=
  congrArg Template.mk (List.append_assoc s.pieces t.pieces u.pieces)

@[simp] theorem append_empty (t : Template) : t ++ empty = t :=
  congrArg Template.mk (List.append_nil t.pieces)

@[simp] theorem empty_append (t : Template) : empty ++ t = t := rfl

/-- A template that consists of slots and of copied texts around them. -/
inductive Lays : Template → List Template → Prop
  /-- Nothing at all. -/
  | empty : Lays .empty []
  /-- A copied text. -/
  | gap (text : String) : Lays (.raw text) []
  /-- One slot. -/
  | slot (u : Template) : Lays u [u]
  /-- Slots after slots. -/
  | append {t u : Template} {slots more : List Template} (ht : Lays t slots) (hu : Lays u more) :
    Lays (t ++ u) (slots ++ more)

namespace Lays

variable {t : Template} {slots : List Template}

/-- Templates with a text between each two, each with slots of its own. -/
theorem joined {α : Type} {f : α → Template} {g : α → List Template} (sep : String)
    (h : ∀ a, Lays (f a) (g a)) :
    ∀ items : List α, Lays (join sep (items.map f)) (items.flatMap g)
  | [] => .empty
  | [a] => by simpa [join] using h a
  | a :: b :: rest => by
    have ih := joined sep h (b :: rest)
    rw [List.map_cons, List.map_cons, join_cons_cons, List.flatMap_cons]
    exact .append (by simpa using (h a).append (.gap sep)) (by simpa using ih)

/-- Slots with a text between each two. -/
theorem join {α : Type} (f : α → Template) (sep : String) (items : List α) :
    Lays (Template.join sep (items.map f)) (items.map f) := by
  have h := joined sep (fun a => .slot (f a)) items
  rwa [← List.map_eq_flatMap] at h

/-- The parameters are those of the slots. -/
theorem params (h : Lays t slots) : t.params = slots.flatMap Template.params := by
  induction h with
  | empty | gap => rfl
  | slot u => simp
  | append _ _ iht ihu => rw [params_append, iht, ihu, List.flatMap_append]

/-- **A template cut at one of its slots.** -/
theorem split (h : Lays t slots) :
    ∀ {before after : List Template} {u : Template}, slots = before ++ u :: after →
      ∃ l r, t = l ++ u ++ r ∧ l.params = before.flatMap Template.params ∧
        r.params = after.flatMap Template.params := by
  induction h with
  | empty | gap => intro before after u hs; simp at hs
  | slot v =>
    intro before after u hs
    obtain ⟨rfl, rfl, rfl⟩ : before = [] ∧ v = u ∧ after = [] := by
      cases before <;> simp_all
    exact ⟨.empty, .empty, by simp, rfl, rfl⟩
  | @append t v slots more ht hv iht ihv =>
    intro before after u hs
    rcases List.append_eq_append_iff.1 hs with ⟨mid, rfl, hm⟩ | ⟨mid, hm, hu⟩
    · -- The slot is one of the second part.
      obtain ⟨l, r, rfl, hl, hr⟩ := ihv hm
      refine ⟨t ++ l, r, by simp only [append_assoc], ?_, hr⟩
      rw [params_append, ht.params, hl, List.flatMap_append]
    · cases mid with
      | nil =>
        obtain ⟨l, r, rfl, hl, hr⟩ := @ihv [] after u hu.symm
        refine ⟨t ++ l, r, by simp only [append_assoc], ?_, hr⟩
        rw [params_append, ht.params, hl, hm]
        simp
      | cons w mid =>
        obtain ⟨rfl, rfl⟩ : u = w ∧ after = mid ++ more := by simpa using hu
        obtain ⟨l, r, rfl, hl, hr⟩ := iht hm
        refine ⟨l, r ++ v, by simp only [append_assoc], hl, ?_⟩
        rw [params_append, hr, hv.params, List.flatMap_append]

/-- **The placeholders of a slot get the operands of that slot**: where no copied text holds a
placeholder, those before the slot are as many as the operands of the slots before it. -/
theorem bound (h : Lays t slots) (free : placeholdersIn t.texts = 0)
    {before after : List Template} {u : Template} (hs : slots = before ++ u :: after) :
    ∃ l r : String, t.sql = l ++ u.sql ++ r ∧
      placeholders l = (before.flatMap Template.params).length ∧
      placeholders u.sql = u.params.length ∧
      t.params = before.flatMap Template.params ++ u.params ++ after.flatMap Template.params := by
  obtain ⟨l, r, rfl, hl, hr⟩ := h.split hs
  simp only [texts_append, placeholdersIn_append] at free
  refine ⟨l.sql, r.sql, by simp, ?_, ?_, by simp [hl, hr]⟩
  · rw [placeholders_sql, hl]
    omega
  · rw [placeholders_sql]
    omega

end Lays

end RecordMapper.Template
