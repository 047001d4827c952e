import Mathlib.Data.List.Induction

/-!
# Records that grow at the end

A wire keeps a record of its traffic, an adapter one of its calls, and a history is a
record of what was done. Each grows at its end.

* `split_snoc`: where an entry of the longer record stands;
* `latest`: what the last entry tells that tells anything.
-/

namespace BusMaster

variable {α β : Type}

/-- An entry of a record up to `last` is `last` itself, or one before it. -/
theorem split_snoc {record before since : List α} {last entry : α}
    (h : record ++ [last] = before ++ entry :: since) :
    before = record ∧ entry = last ∧ since = [] ∨
      ∃ since', since = since' ++ [last] ∧ record = before ++ entry :: since' := by
  rcases List.eq_nil_or_concat since with rfl | ⟨since, final, rfl⟩
  · obtain ⟨rfl, hlast⟩ := List.append_inj' h rfl
    exact .inl ⟨rfl, (List.cons.inj hlast).1.symm, rfl⟩
  · rw [List.concat_eq_append, ← List.cons_append, ← List.append_assoc] at h
    obtain ⟨hrecord, hlast⟩ := List.append_inj' h rfl
    obtain ⟨rfl, -⟩ := List.cons.inj hlast
    exact .inr ⟨since, List.concat_eq_append, hrecord⟩

/-- What the last of the entries tells that tells anything, or else how things stood
before. -/
def latest (tells : α → Option β) (before : β) (record : List α) : β :=
  (record.filterMap tells).getLast?.getD before

theorem latest_singleton (tells : α → Option β) (before : β) (entry : α) :
    latest tells before [entry] = (tells entry).getD before := by
  rw [latest, List.filterMap_cons]
  cases tells entry <;> rfl

theorem latest_append (tells : α → Option β) (before : β) (record more : List α) :
    latest tells before (record ++ more) = latest tells (latest tells before record) more := by
  rw [latest, latest, latest, List.filterMap_append, List.getLast?_append]
  cases (more.filterMap tells).getLast? <;> rfl

end BusMaster
