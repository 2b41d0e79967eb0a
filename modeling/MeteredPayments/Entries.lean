/-!
# Maps kept as lists of entries

The allow-list of signers and the escrow ledger each keep a map as a list of key-value entries,
no key twice. An entry is set by dropping the entries of its key and appending the new one, and
removed by dropping them: both keep the keys distinct, and a lookup reads the map they leave.
-/

namespace MeteredPayments

section Entries

variable {α β : Type} [DecidableEq α]

/-- Dropping the entries of a key keeps the keys distinct. -/
theorem nodup_keys_filter {entries : List (α × β)} (distinct : (entries.map Prod.fst).Nodup)
    (key : α) : ((entries.filter (·.1 ≠ key)).map Prod.fst).Nodup :=
  (List.filter_sublist.map _).nodup distinct

/-- Replacing the entries of a key by one new entry keeps the keys distinct. -/
theorem nodup_keys_replace {entries : List (α × β)} (distinct : (entries.map Prod.fst).Nodup)
    (key : α) (value : β) :
    ((entries.filter (·.1 ≠ key) ++ [(key, value)]).map Prod.fst).Nodup := by
  rw [List.map_append, List.nodup_append]
  -- the appended key is one of the keys the filter dropped
  refine ⟨nodup_keys_filter distinct key, by simp, ?_⟩
  simp

/-- A lookup passes over an entry of another key. -/
theorem lookup_cons_of_ne {entries : List (α × β)} {key other : α} (value : β)
    (different : other ≠ key) :
    ((key, value) :: entries).lookup other = entries.lookup other := by
  rw [List.lookup_cons, beq_false_of_ne different]

/-- Dropping the entries of one key forgets that key and no other. -/
theorem lookup_filter_ne (entries : List (α × β)) (key other : α) :
    (entries.filter (·.1 ≠ key)).lookup other =
      if other = key then none else entries.lookup other := by
  induction entries with
  | nil => simp
  | cons entry rest induction =>
      obtain ⟨bound, value⟩ := entry
      by_cases dropped : bound = key
      · subst dropped
        have skipped : ((bound, value) :: rest).filter (·.1 ≠ bound) =
            rest.filter (·.1 ≠ bound) := by
          simp
        rw [skipped, induction]
        by_cases same : other = bound
        · simp [same]
        · simp [same, lookup_cons_of_ne _ same]
      · have kept : ((bound, value) :: rest).filter (·.1 ≠ key) =
            (bound, value) :: rest.filter (·.1 ≠ key) := by
          simp [dropped]
        rw [kept]
        by_cases same : other = bound
        · subst same
          simp [dropped, List.lookup_cons_self]
        · rw [lookup_cons_of_ne _ same, lookup_cons_of_ne _ same, induction]

/-- Replacing the entries of one key by a single new one sets that key and no other. -/
theorem lookup_replace (entries : List (α × β)) (key other : α) (value : β) :
    ((entries.filter (·.1 ≠ key)) ++ [(key, value)]).lookup other =
      if other = key then some value else entries.lookup other := by
  rw [List.lookup_append, lookup_filter_ne]
  by_cases same : other = key
  · simp [same, List.lookup_cons_self]
  · simp [same, lookup_cons_of_ne _ same]

end Entries

end MeteredPayments
