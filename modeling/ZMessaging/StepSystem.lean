import Mathlib.Logic.Basic
import Mathlib.Order.Basic
import Mathlib.Data.List.Nodup
import Mathlib.Data.Finset.Basic

/-!
# Runs of a deterministic step system

Every component below is modelled the same way: a state, a type of events
and a total step function.  An event carries everything the environment
decides at that point (which method is called, the transcoder's answers,
the response status, the clock), so a run is just a list of events and the
component's nondeterminism is entirely in the choice of that list.

This file is the shared toolkit: runs compose (`run_append`), a loop over
a list is a run of its body (`foldl_eq_run`), a predicate that every step
preserves holds after every run (`run_invariant`), and the reachable states
are closed under steps (`Reachable.next`) and satisfy every inductive
invariant (`Reachable.induction`).  Requests in flight are kept in a list
keyed by their issue number; `find?_key_eq_some` is how a completion finds
its own, and `keys_lt_issue` and `keys_nodup_issue` keep those numbers
below the counter and distinct when one more is issued, and
`toFinset_map_filter_key` says what a completion leaves in flight; `Tracks`
bundles them for a sync that keeps the set of objects it is fetching.  The exit
rule (`exists_step_of_run`) finds the step at which a property that held
where a run started stopped holding.  `nodup_eraseDups`
is what ordered sets built by insertion rest on.
-/

namespace StepSystem

variable {σ α : Type*}

/-- Feed the events of a list, in order, to the step function. -/
def run (step : σ → α → σ) : σ → List α → σ
  | s, [] => s
  | s, a :: as => run step (step s a) as

@[simp] theorem run_nil (step : σ → α → σ) (s : σ) : run step s [] = s := rfl

@[simp] theorem run_cons (step : σ → α → σ) (s : σ) (a : α) (as : List α) :
    run step s (a :: as) = run step (step s a) as := rfl

/-- A run of a concatenation is the run of the second part from where the
first part ended. -/
theorem run_append (step : σ → α → σ) (s : σ) (as bs : List α) :
    run step s (as ++ bs) = run step (run step s as) bs := by
  induction as generalizing s with
  | nil => rfl
  | cons a as ih => exact ih (step s a)

/-- A `for` loop over a list, written as a left fold, is a run of its body. -/
theorem foldl_eq_run (step : σ → α → σ) (s : σ) (as : List α) :
    as.foldl step s = run step s as := by
  induction as generalizing s with
  | nil => rfl
  | cons a as ih => exact ih (step s a)

theorem run_concat (step : σ → α → σ) (s : σ) (as : List α) (a : α) :
    run step s (as ++ [a]) = step (run step s as) a := by
  rw [run_append]
  rfl

/-- **Invariant rule.**  A predicate preserved by every step holds after
every run that starts in it. -/
theorem run_invariant {step : σ → α → σ} (P : σ → Prop)
    (hstep : ∀ s a, P s → P (step s a)) :
    ∀ (as : List α) {s : σ}, P s → P (run step s as)
  | [], _, hs => hs
  | a :: as, s, hs => run_invariant P hstep as (hstep s a hs)

/-- **Exit rule.**  A predicate that holds where a run starts and not where
it ends stops holding at one of its steps, taken from the state that the
events before it reached. -/
theorem exists_step_of_run (step : σ → α → σ) (P : σ → Prop) :
    ∀ (as : List α) {s : σ}, P s → ¬ P (run step s as) →
      ∃ pre a post, as = pre ++ a :: post ∧ P (run step s pre) ∧ ¬ P (step (run step s pre) a)
  | [], _, hs, hend => absurd hs hend
  | a :: as, s, hs, hend => by
    by_cases hnext : P (step s a)
    · obtain ⟨pre, b, post, hsplit, hpre, hb⟩ := exists_step_of_run step P as hnext hend
      exact ⟨a :: pre, b, post, by rw [hsplit, List.cons_append], hpre, hb⟩
    · exact ⟨[], a, as, rfl, hs, hnext⟩

/-- Every event of the list satisfies `G` in the state where it is taken: the
runs to which a side condition on the environment applies. -/
def Guarded (step : σ → α → σ) (G : σ → α → Prop) : σ → List α → Prop
  | _, [] => True
  | s, a :: as => G s a ∧ Guarded step G (step s a) as

/-- **Guarded invariant rule.**  A predicate preserved by every step that
satisfies the guard holds after every guarded run. -/
theorem run_invariant_guarded {step : σ → α → σ} {G : σ → α → Prop}
    (P : σ → Prop) (hstep : ∀ s a, P s → G s a → P (step s a)) :
    ∀ (as : List α) {s : σ}, P s → Guarded step G s as → P (run step s as)
  | [], _, hs, _ => hs
  | a :: as, s, hs, ⟨ha, has⟩ =>
      run_invariant_guarded P hstep as (hstep s a hs ha) has

theorem guarded_append {step : σ → α → σ} {G : σ → α → Prop} (s : σ)
    (as bs : List α) :
    Guarded step G s (as ++ bs) ↔
      Guarded step G s as ∧ Guarded step G (run step s as) bs := by
  induction as generalizing s with
  | nil => simp [Guarded]
  | cons a as ih => simp [Guarded, ih, and_assoc]

/-- In a list whose keys are distinct, looking an element up by its key
finds that element. -/
theorem find?_key_eq_some {β : Type*} [DecidableEq β] {key : α → β} {l : List α} {x : α}
    (hnodup : (l.map key).Nodup) (hx : x ∈ l) : l.find? (fun y => key y = key x) = some x := by
  have hsome : (l.find? (fun y => key y = key x)).isSome := by
    rw [List.find?_isSome]
    exact ⟨x, hx, by simp⟩
  obtain ⟨y, hfind⟩ := Option.isSome_iff_exists.mp hsome
  have hy : y ∈ l := List.mem_of_find?_eq_some hfind
  have hkey : key y = key x := by simpa using List.find?_some hfind
  rw [hfind, List.inj_on_of_nodup_map hnodup hy hx hkey]

/-- Issuing a request under the counter, and counting on, keeps every key
below the counter. -/
theorem keys_lt_issue (key : α → Nat) {l : List α} {n : Nat} (hlt : ∀ r ∈ l, key r < n)
    {r' : α} (hr' : key r' = n) : ∀ r ∈ l ++ [r'], key r < n + 1 := by
  rw [List.forall_mem_append, List.forall_mem_singleton]
  exact ⟨fun r hr => Nat.lt_succ_of_lt (hlt r hr), hr' ▸ Nat.lt_succ_self n⟩

/-- A request issued under the counter has a key no request before it has. -/
theorem keys_nodup_issue (key : α → Nat) {l : List α} {n : Nat} (hlt : ∀ r ∈ l, key r < n)
    (hnodup : (l.map key).Nodup) {r' : α} (hr' : key r' = n) : ((l ++ [r']).map key).Nodup := by
  rw [List.map_append, List.nodup_append]
  refine ⟨hnodup, List.nodup_singleton _, ?_⟩
  intro a ha b hb
  obtain ⟨r, hr, rfl⟩ := List.mem_map.mp ha
  rw [List.map_cons, List.map_nil, List.mem_singleton, hr'] at hb
  rw [hb]
  exact Nat.ne_of_lt (hlt r hr)

/-- Dropping a request by its key drops exactly its object from the objects
in flight, when keys and objects are both distinct. -/
theorem toFinset_map_filter_key {β γ : Type*} [DecidableEq β] [DecidableEq γ] (key : α → β)
    (object : α → γ) {l : List α} (hkeys : (l.map key).Nodup) (hobjects : (l.map object).Nodup)
    {r : α} (hr : r ∈ l) :
    ((l.filter (key · ≠ key r)).map object).toFinset = (l.map object).toFinset.erase (object r) := by
  ext x
  simp only [List.mem_toFinset, List.mem_map, List.mem_filter, Finset.mem_erase,
    decide_eq_true_eq]
  constructor
  · rintro ⟨r', ⟨hr', hne⟩, rfl⟩
    refine ⟨fun hobj => hne ?_, r', hr', rfl⟩
    rw [List.inj_on_of_nodup_map hobjects hr' hr hobj]
  · rintro ⟨hne, r', hr', rfl⟩
    refine ⟨r', ⟨hr', fun hkey => hne ?_⟩, rfl⟩
    rw [List.inj_on_of_nodup_map hkeys hr' hr hkey]

/-- The bookkeeping of requests in flight: the set `busy` is exactly the
objects of the requests in flight, one request each, and the requests' keys
are distinct and below the counter `issued`. -/
structure Tracks {κ : Type*} [DecidableEq κ] (key : α → Nat) (object : α → κ) (busy : Finset κ)
    (inFlight : List α) (issued : Nat) : Prop where
  busy_eq : busy = (inFlight.map object).toFinset
  objects_nodup : (inFlight.map object).Nodup
  key_lt : ∀ r ∈ inFlight, key r < issued
  keys_nodup : (inFlight.map key).Nodup

namespace Tracks

variable {κ : Type*} [DecidableEq κ] {key : α → Nat} {object : α → κ} {busy : Finset κ}
  {inFlight : List α} {issued : Nat}

theorem nil (key : α → Nat) (object : α → κ) (issued : Nat) : Tracks key object ∅ [] issued :=
  ⟨rfl, List.nodup_nil, fun _ h => absurd h List.not_mem_nil, List.nodup_nil⟩

/-- Handing out a request, numbered by the counter, for an object that is not
busy makes the object busy. -/
theorem issue (h : Tracks key object busy inFlight issued) {r : α} (hfree : object r ∉ busy)
    (hkey : key r = issued) :
    Tracks key object (insert (object r) busy) (inFlight ++ [r]) (issued + 1) where
  busy_eq := by
    rw [h.busy_eq]
    ext x
    simp only [Finset.mem_insert, List.mem_toFinset, List.map_append, List.map_singleton,
      List.mem_append, List.mem_singleton]
    exact or_comm
  objects_nodup := by
    have hfresh : object r ∉ inFlight.map object := by
      rw [h.busy_eq, List.mem_toFinset] at hfree
      exact hfree
    rw [List.map_append, List.map_singleton, List.nodup_append]
    exact ⟨h.objects_nodup, List.nodup_singleton _,
      fun a ha b hb => by rw [List.mem_singleton.mp hb]; exact fun heq => hfresh (heq ▸ ha)⟩
  key_lt := keys_lt_issue key h.key_lt hkey
  keys_nodup := keys_nodup_issue key h.key_lt h.keys_nodup hkey

/-- A completion finds its own request by its key. -/
theorem find?_eq (h : Tracks key object busy inFlight issued) {r : α} (hr : r ∈ inFlight) :
    inFlight.find? (fun y => key y = key r) = some r :=
  find?_key_eq_some h.keys_nodup hr

/-- Completing a request in flight takes its object off the busy set. -/
theorem complete (h : Tracks key object busy inFlight issued) {r : α} (hr : r ∈ inFlight) :
    Tracks key object (busy.erase (object r)) (inFlight.filter (key · ≠ key r)) issued where
  busy_eq := by rw [h.busy_eq, toFinset_map_filter_key key object h.keys_nodup h.objects_nodup hr]
  objects_nodup := (List.filter_sublist.map _).nodup h.objects_nodup
  key_lt r' hr' := h.key_lt r' (List.mem_of_mem_filter hr')
  keys_nodup := (List.filter_sublist.map _).nodup h.keys_nodup

end Tracks

/-- Keeping the first occurrence of each element leaves no duplicates. -/
theorem nodup_eraseDups [BEq α] [LawfulBEq α] : ∀ l : List α, l.eraseDups.Nodup
  | [] => List.nodup_nil
  | a :: as => by
    rw [List.eraseDups_cons]
    refine List.nodup_cons.mpr ⟨fun ha => ?_, nodup_eraseDups _⟩
    -- the tail keeps only elements other than `a`
    rw [List.mem_eraseDups, List.mem_filter] at ha
    simp at ha
  termination_by l => l.length
  decreasing_by exact Nat.lt_succ_of_le (List.length_filter_le _ _)

/-- A fold whose every step removes from a list without duplicates the
elements found under some keys removes exactly the elements found under the
keys of all its steps, and leaves a sublist. -/
theorem foldl_removes {ε κ : Type*} (f : σ → α → σ) (elements : σ → List ε)
    (keys : α → List κ) (lookup : κ → Option ε)
    (hf : ∀ s a, (elements s).Nodup → List.Sublist (elements (f s a)) (elements s) ∧
      ∀ x, x ∈ elements (f s a) ↔ x ∈ elements s ∧ ∀ k ∈ keys a, lookup k ≠ some x)
    (as : List α) {s : σ} (hs : (elements s).Nodup) :
    List.Sublist (elements (as.foldl f s)) (elements s) ∧
      ∀ x, x ∈ elements (as.foldl f s) ↔
        x ∈ elements s ∧ ∀ a ∈ as, ∀ k ∈ keys a, lookup k ≠ some x := by
  induction as generalizing s with
  | nil => simp
  | cons a as ih =>
    obtain ⟨hsub, hmem⟩ := hf s a hs
    obtain ⟨hsub', hmem'⟩ := ih (hs.sublist hsub)
    refine ⟨hsub'.trans hsub, fun x => ?_⟩
    rw [List.foldl_cons, hmem', hmem]
    simp only [List.mem_cons, forall_eq_or_imp]
    tauto

/-- The states some run reaches from `init`. -/
def Reachable (step : σ → α → σ) (init : σ) (s : σ) : Prop :=
  ∃ as : List α, run step init as = s

namespace Reachable

variable {step : σ → α → σ} {init : σ}

theorem init_mem : Reachable step init init := ⟨[], rfl⟩

/-- One more step from a reachable state is reachable. -/
theorem next {s : σ} (hs : Reachable step init s) (a : α) :
    Reachable step init (step s a) := by
  obtain ⟨as, rfl⟩ := hs
  exact ⟨as ++ [a], run_concat step init as a⟩

/-- **Induction on reachable states**: an invariant that holds initially and
is preserved by every step holds in every reachable state. -/
theorem induction (P : σ → Prop) (hinit : P init)
    (hstep : ∀ s a, P s → P (step s a)) {s : σ}
    (hs : Reachable step init s) : P s := by
  obtain ⟨as, rfl⟩ := hs
  exact run_invariant P hstep as hinit

end Reachable

end StepSystem
