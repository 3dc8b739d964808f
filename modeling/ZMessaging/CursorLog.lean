import Mathlib.Data.List.Pairwise

/-!
# A log read from a cursor

A log of entries, each with a key, is read from a cursor: `since key log
cursor` is what follows the first entry whose key is `cursor`, or the whole log
when there is no cursor yet.  A reader that moves its cursor to the key of the
last entry it has taken reads every entry once and in order, provided the keys
are strictly increasing for a comparison `cmp`:

* what follows a cursor the log knows grows by what is appended
  (`since_append_singleton`);
* every entry after a cursor is later than it (`lt_of_mem_since`);
* moving the cursor to an entry of what followed it leaves what follows that
  entry (`since_of_eq_append_cons`), so the entries in between are exactly the
  ones taken.

A page of what follows the cursor is split at its last entry that carries
anything (`exists_last_of_flatMap_ne_nil`): that entry is where the cursor goes.
-/

namespace CursorLog

variable {α β : Type*} [DecidableEq β] (key : α → β)

/-- The entries after the first one with key `cursor`; all of them for no cursor,
and none when no entry has that key. -/
def since : List α → Option β → List α
  | log, none => log
  | [], some _ => []
  | entry :: log, some cursor => if key entry = cursor then log else since log (some cursor)

@[simp] theorem since_none (log : List α) : since key log none = log := by
  cases log <;> rfl

/-- An entry whose key no earlier entry has is found. -/
theorem since_append_cons {pre : List α} {entry : α} (rest : List α)
    (hpre : ∀ e ∈ pre, key e ≠ key entry) :
    since key (pre ++ entry :: rest) (some (key entry)) = rest := by
  induction pre with
  | nil => simp [since]
  | cons e pre ih =>
    have hne : key e ≠ key entry := hpre e List.mem_cons_self
    simp only [List.cons_append, since, hne, if_false]
    exact ih fun e' he' => hpre e' (List.mem_cons_of_mem _ he')

/-- What follows a cursor is a suffix of the log. -/
theorem since_suffix (log : List α) (cursor : Option β) : since key log cursor <:+ log := by
  cases cursor with
  | none => simp
  | some cursor =>
    induction log with
    | nil => simp [since]
    | cons entry log ih =>
      simp only [since]
      split
      · exact List.suffix_cons entry log
      · exact ih.trans (List.suffix_cons entry log)

/-- Appending to the log appends to what follows a cursor the log knows. -/
theorem since_append_singleton {log : List α} {cursor : Option β} (entry : α)
    (hcursor : ∀ c, cursor = some c → c ∈ log.map key) :
    since key (log ++ [entry]) cursor = since key log cursor ++ [entry] := by
  cases cursor with
  | none => simp
  | some c =>
    have hc := hcursor c rfl
    induction log with
    | nil => simp at hc
    | cons e log ih =>
      simp only [List.cons_append, since]
      split
      · rfl
      · rename_i hne
        have hc' : c ∈ log.map key := by
          simpa [Ne.symm hne] using hc
        exact ih (fun c' hc'' => by cases hc''; exact hc') hc'

section Ordered

variable {key} {cmp : β → β → Ordering}

omit [DecidableEq β] in
theorem cmp_self_ne_lt [Std.ReflCmp cmp] (b : β) : cmp b b ≠ .lt := by
  have hself : cmp b b = .eq := Std.ReflCmp.compare_self
  simp [hself]

/-- In a log with strictly increasing keys, every entry after a cursor is later
than it. -/
theorem lt_of_mem_since {log : List α} {c : β}
    (hlog : log.Pairwise fun a b => cmp (key a) (key b) = .lt) {e : α}
    (he : e ∈ since key log (some c)) : cmp c (key e) = .lt := by
  induction log with
  | nil => simp [since] at he
  | cons entry log ih =>
    obtain ⟨hhead, htail⟩ := List.pairwise_cons.mp hlog
    simp only [since] at he
    split at he
    · rename_i heq
      exact heq ▸ hhead e he
    · exact ih htail he

omit [DecidableEq β] in
/-- In a log with strictly increasing keys, the keys before an entry are not its
key. -/
theorem key_ne_of_pairwise [Std.ReflCmp cmp] {pre : List α} {entry : α} {rest : List α}
    (hlog : (pre ++ entry :: rest).Pairwise fun a b => cmp (key a) (key b) = .lt) :
    ∀ e ∈ pre, key e ≠ key entry := by
  intro e he heq
  have hlt := List.pairwise_append.mp hlog |>.2.2 e he entry List.mem_cons_self
  exact cmp_self_ne_lt (key entry) (heq ▸ hlt)

/-- **Moving the cursor.**  If what follows the cursor is `pre ++ entry :: rest`,
then what follows `entry` is `rest`. -/
theorem since_of_eq_append_cons [Std.ReflCmp cmp] {log : List α}
    (hlog : log.Pairwise fun a b => cmp (key a) (key b) = .lt) {cursor : Option β}
    {pre : List α} {entry : α} {rest : List α}
    (h : since key log cursor = pre ++ entry :: rest) :
    since key log (some (key entry)) = rest := by
  cases cursor with
  | none =>
    rw [since_none] at h
    subst h
    exact since_append_cons key rest (key_ne_of_pairwise hlog)
  | some c =>
    induction log with
    | nil => simp [since] at h
    | cons e log ih =>
      obtain ⟨hhead, htail⟩ := List.pairwise_cons.mp hlog
      simp only [since] at h
      split at h
      · -- the cursor was `e`: the entry is after it, so it is not `e`
        subst h
        have hne : key e ≠ key entry := by
          intro heq
          have hlt := hhead entry (List.mem_append_right pre List.mem_cons_self)
          exact cmp_self_ne_lt (key entry) (heq ▸ hlt)
        simp only [since, hne, if_false]
        exact since_append_cons key rest (key_ne_of_pairwise htail)
      · have hne : key e ≠ key entry := by
          intro heq
          have hmem : entry ∈ since key log (some c) := h ▸ List.mem_append_right pre List.mem_cons_self
          have hlt := hhead entry ((since_suffix key log _).subset hmem)
          exact cmp_self_ne_lt (key entry) (heq ▸ hlt)
        simp only [since, hne, if_false]
        exact ih htail h

end Ordered

/-- A list whose entries carry something between them has a last entry that
carries something, and nothing after it does. -/
theorem exists_last_of_flatMap_ne_nil {γ : Type*} (f : α → List γ) :
    ∀ {l : List α}, l.flatMap f ≠ [] →
      ∃ pre entry post, l = pre ++ entry :: post ∧ f entry ≠ [] ∧ post.flatMap f = []
  | [], h => absurd rfl h
  | entry :: l, h => by
    by_cases hl : l.flatMap f = []
    · refine ⟨[], entry, l, rfl, ?_, hl⟩
      simpa [hl] using h
    · obtain ⟨pre, last, post, hsplit, hlast, hpost⟩ := exists_last_of_flatMap_ne_nil f hl
      exact ⟨entry :: pre, last, post, by simp [hsplit], hlast, hpost⟩

end CursorLog
