import ZMessaging.StepSystem

/-!
# `ZMDependentObjects`: objects waiting for a dependency

Both upstream syncs ask their transcoder, for every object they are about to
track, for an object that has to be synchronized first.  An object with such a
dependency is parked in a `ZMDependentObjects` table under that dependency
instead of being tracked.  Whenever an object changes, the sync re-examines
the objects parked under it (`checkForUpdatedDependency:`): one without a
dependency now is tracked, one with another dependency moves there, and the
others stay.

The map table's key order and the dependants' order are kept as lists, since
`anyDependencyForObject:` returns the first dependency in that order.  The
re-examination is written once, over the state `σ` of the sync that passes
the block; the only thing the block does to the sync besides the table is
the sync's own "track without dependency", so whatever that keeps, the
re-examination keeps (`checkForUpdatedDependency_invariant`).
-/

namespace ZMessaging

open StepSystem

variable {ω : Type*} [DecidableEq ω]

/-- Adding to an ordered set: appended unless already present. -/
def orderedSetAdd (l : List ω) (a : ω) : List ω :=
  if a ∈ l then l else l ++ [a]

@[simp] theorem mem_orderedSetAdd {l : List ω} {a x : ω} :
    x ∈ orderedSetAdd l a ↔ x ∈ l ∨ x = a := by
  unfold orderedSetAdd
  split
  · rename_i ha
    constructor
    · exact Or.inl
    · rintro (hx | rfl)
      · exact hx
      · exact ha
  · simp

theorem nodup_orderedSetAdd {l : List ω} (hl : l.Nodup) (a : ω) : (orderedSetAdd l a).Nodup := by
  unfold orderedSetAdd
  split
  · exact hl
  · rename_i ha
    exact List.nodup_append.mpr ⟨hl, List.nodup_singleton a,
      fun x hx y hy => by rw [List.mem_singleton.mp hy]; exact fun h => ha (h ▸ hx)⟩

/-- `ZMDependentObjects`: per dependency, in the map table's enumeration
order, the ordered set of objects waiting for it. -/
structure ZMDependentObjects (ω : Type*) where
  dependenciesToDependants : List (ω × List ω)

namespace ZMDependentObjects

variable (deps : ZMDependentObjects ω)

/-- `init`. -/
def init : ZMDependentObjects ω := ⟨[]⟩

/-- `addManagedObject:withDependency:`. -/
def addManagedObject (dependant dependency : ω) : ZMDependentObjects ω :=
  match deps.dependenciesToDependants.find? (·.1 = dependency) with
  | none => ⟨deps.dependenciesToDependants ++ [(dependency, [dependant])]⟩
  | some (_, trackedDependants) =>
      ⟨deps.dependenciesToDependants.map fun entry =>
        if entry.1 = dependency then (dependency, orderedSetAdd trackedDependants dependant)
        else entry⟩

/-- `anyDependencyForObject:`: the first dependency listing the object. -/
def anyDependencyForObject (dependant : ω) : Option ω :=
  (deps.dependenciesToDependants.find? (dependant ∈ ·.2)).map (·.1)

/-- The dependants recorded for a dependency (`objectForKey:`). -/
def dependants (dependency : ω) : Option (List ω) :=
  (deps.dependenciesToDependants.find? (·.1 = dependency)).map (·.2)

/-- The last step of `enumerateManagedObjectsForDependency:withBlock:`: keep
the dependants the block did not take, or drop the entry. -/
def setRemaining (dependency : ω) (remaining : List ω) : ZMDependentObjects ω :=
  if remaining = [] then ⟨deps.dependenciesToDependants.filter (·.1 ≠ dependency)⟩
  else ⟨deps.dependenciesToDependants.map fun entry =>
    if entry.1 = dependency then (dependency, remaining) else entry⟩

variable {σ : Type*} (addWithoutDependency : σ → ω → σ) (dependencyOf : ω → Option ω)

/-- The block `checkForUpdatedDependency:` passes: the table, the sync's
state and the dependants kept so far, after one dependant `mo`. -/
def checkForUpdatedDependencyBlock (existingDependency : ω)
    (acc : ZMDependentObjects ω × σ × List ω) (mo : ω) : ZMDependentObjects ω × σ × List ω :=
  match dependencyOf mo with
  | none => (acc.1, addWithoutDependency acc.2.1 mo, acc.2.2)
  | some newDependency =>
      if newDependency = existingDependency then (acc.1, acc.2.1, orderedSetAdd acc.2.2 mo)
      else (acc.1.addManagedObject mo newDependency, acc.2.1, acc.2.2)

/-- `enumerateManagedObjectsForDependency:withBlock:` with that block: the
table afterwards and the sync's state afterwards. -/
def checkForUpdatedDependency (existingDependency : ω) (s : σ) : ZMDependentObjects ω × σ :=
  match deps.dependants existingDependency with
  | none => (deps, s)
  | some trackedDependants =>
      let enumerated := trackedDependants.foldl
        (checkForUpdatedDependencyBlock addWithoutDependency dependencyOf existingDependency)
        (deps, s, [])
      (enumerated.1.setRemaining existingDependency enumerated.2.2, enumerated.2.1)

/-- **The re-examination only tracks objects.**  A property of the sync's
state that tracking an object without dependency keeps is kept. -/
theorem checkForUpdatedDependency_invariant (P : σ → Prop)
    (hadd : ∀ s mo, P s → P (addWithoutDependency s mo)) (existingDependency : ω) {s : σ}
    (hs : P s) :
    P (deps.checkForUpdatedDependency addWithoutDependency dependencyOf existingDependency
      s).2 := by
  unfold checkForUpdatedDependency
  split
  · exact hs
  · rename_i trackedDependants _
    rw [foldl_eq_run]
    refine run_invariant (fun acc : ZMDependentObjects ω × σ × List ω => P acc.2.1) ?_
      trackedDependants (s := (deps, s, [])) hs
    intro acc mo hacc
    unfold checkForUpdatedDependencyBlock
    split
    · exact hadd _ mo hacc
    · split
      · exact hacc
      · exact hacc

end ZMDependentObjects

end ZMessaging
