/-!
# Steps that may fail and look-ups that may miss

What comes of steps that may fail is known to come of their parts. What a look-up finds stands in the
list; pairs that are taken out of a list by their keys do not change what is found under the other
keys, and neither does the order of pairs with different keys.
-/
namespace PagePress

section Steps

variable {ε α β : Type} {x : Except ε α} {b : β}

/-- Of two steps that both succeed, the first gives something to the second. -/
theorem of_bind_eq_ok {f : α → Except ε β} (h : x >>= f = .ok b) :
    ∃ a, x = .ok a ∧ f a = .ok b := by
  cases x with
  | error e => cases h
  | ok a => exact ⟨a, rfl, h⟩

theorem of_map_eq_ok {f : α → β} (h : x.map f = .ok b) : ∃ a, x = .ok a ∧ f a = b := by
  cases x with
  | error e => cases h
  | ok a => exact ⟨a, rfl, Except.ok.inj h⟩

end Steps

/-- What is found stands in the list under its key. -/
theorem mem_of_lookup {α β : Type} [BEq α] [LawfulBEq α] {key : α} {value : β}
    {entries : List (α × β)} (found : entries.lookup key = some value) : (key, value) ∈ entries := by
  obtain ⟨before, after, rfl, -⟩ := List.lookup_eq_some_iff.1 found
  simp

theorem lookup_filter_keys {α β : Type} [BEq α] [LawfulBEq α] (keep : α → Bool) (key : α)
    (entries : List (α × β)) :
    (entries.filter fun entry => keep entry.1).lookup key =
      if keep key then entries.lookup key else none := by
  induction entries with
  | nil => simp
  | cons entry rest ih =>
    obtain ⟨other, value⟩ := entry
    rw [List.filter_cons]
    by_cases same : key = other
    · subst same
      cases kept : keep key with
      | true => simp
      | false =>
        rw [kept] at ih
        simpa using ih
    · have differ : (key == other) = false := beq_false_of_ne same
      split <;> simp [List.lookup_cons, differ, ih]

/-- The order of pairs does not matter to look-ups if no key comes twice. -/
theorem lookup_perm {α β : Type} [BEq α] [LawfulBEq α] {first second : List (α × β)}
    (order : first.Perm second) (once : (first.map Prod.fst).Nodup) (key : α) :
    first.lookup key = second.lookup key := by
  induction order with
  | nil => rfl
  | cons entry _ ih => rw [List.lookup_cons, List.lookup_cons, ih once.of_cons]
  | swap entry other entries =>
    have differ : other.1 ≠ entry.1 := fun same => by simp [same] at once
    rw [List.lookup_cons, List.lookup_cons, List.lookup_cons, List.lookup_cons]
    cases this : key == entry.1 with
    | false => rfl
    | true =>
      have that : (key == other.1) = false :=
        beq_false_of_ne fun same => differ (same.symm.trans (eq_of_beq this))
      rw [that]
  | trans order _ ih₁ ih₂ =>
    exact (ih₁ once).trans (ih₂ ((order.map Prod.fst).nodup_iff.1 once))

end PagePress
