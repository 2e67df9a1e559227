import Mathlib.Data.List.Sublists
import StControl.Foundations.Run

/-!
# Publishing a snapshot

`ReceiveSnapshot` extracts a tree next to the public directory and then puts it in its place:
`RENAME_EXCHANGE` where there is a public directory already, a rename where there is none.  A change
of a directory is atomic, and it is durable once the directory is synced; until then a crash may
keep it or lose it, whatever it does with other changes.

So the disk is a durable state and a list of pending changes.  Two trees matter, the old one and the
new one.  They are files and directories of their own: what is deleted in one of them is deleted
wherever the tree hangs.  Every system call may fail, and the agent may crash at any point with any
part of the pending changes.  The next start removes what is left of the task.

Two things go wrong.  When the sync of the parent fails after the exchange, the cleanup deletes the
old tree while the exchange is still pending, and the crash that loses the exchange leaves a public
directory with holes.  And the parent of the public directory may have been created a moment before:
nothing makes its own entry durable, so that a tree may be gone that was reported as published.
`publication_not_atomic` has both.  Apart from these two cases a publication is atomic
(`publication_atomic`).
-/

namespace StControl.Agent

open Run

/-! ## The disk -/

inductive SnapshotTree
  | old | new
  deriving DecidableEq

/-- The names around a publication: the public path, the staging directory of the task, and whether
the parent of the public path is linked in its own parent. -/
structure PublicationNames where
  (published staging : Option SnapshotTree)
  (parentLinked oldIntact newIntact : Bool)
  deriving DecidableEq

/-- One change of the disk.  `extract` stands for all files of the new tree, and `delete` for the
first of the files that are deleted in a tree. -/
inductive DiskChange
  | linkParent | extract | exchange | rename | delete (tree : SnapshotTree) | unlinkStaging
  deriving DecidableEq

inductive SyncedDirectory
  | stagingTree | parent | taskRoot
  deriving DecidableEq

/-- The sync of the directory makes the change durable.  Nothing syncs the directory in which the
parent is linked, or one of which files are deleted. -/
def DiskChange.touches (directory : SyncedDirectory) : DiskChange → Bool
  | .extract => directory = .stagingTree
  | .exchange | .rename => directory = .parent || directory = .taskRoot
  | .unlinkStaging => directory = .taskRoot
  | .linkParent | .delete _ => false

def PublicationNames.apply (names : PublicationNames) : DiskChange → PublicationNames
  | .linkParent => { names with parentLinked := true }
  | .extract => { names with newIntact := true }
  | .exchange => { names with published := names.staging, staging := names.published }
  | .rename => { names with published := names.staging, staging := none }
  | .delete .old => { names with oldIntact := false }
  | .delete .new => { names with newIntact := false }
  | .unlinkStaging => { names with staging := none }

def PublicationNames.atPublicPath (names : PublicationNames) : Option (SnapshotTree × Bool) :=
  if names.parentLinked then
    names.published.map fun tree => (tree, if tree = .old then names.oldIntact else names.newIntact)
  else none

structure PublicationDisk where
  durable : PublicationNames
  pending : List DiskChange
  deriving DecidableEq

namespace PublicationDisk

def view (d : PublicationDisk) : PublicationNames := d.pending.foldl .apply d.durable

def sync (d : PublicationDisk) (directory : SyncedDirectory) : PublicationDisk where
  durable := (d.pending.filter (·.touches directory)).foldl .apply d.durable
  pending := d.pending.filter fun change => !change.touches directory

/-- `removeTaskDirectory` on the staging directory or the whole task; it may not get to its end. -/
def removeStaging (d : PublicationDisk) (complete : Bool) : PublicationDisk :=
  match d.view.staging with
  | some tree =>
    { d with pending := d.pending ++ .delete tree :: if complete then [.unlinkStaging] else [] }
  | none => d

end PublicationDisk

/-! ## Publication -/

/-- Where `publishSnapshotDirectory` is, and after it `ReceiveSnapshot`. -/
inductive PublishPhase
  | making | syncingTree | inspecting | swapping | syncingParent (hadPrevious : Bool) | syncingTask
  | removing | syncingRemoval | reporting | cleaning | returned | crashed | started
  deriving DecidableEq

structure Publication where
  disk : PublicationDisk
  phase : PublishPhase
  reported : Bool
  deriving DecidableEq

/-- The next system call, which succeeds or fails; a crash, with the pending changes that it keeps;
or the next start of the agent. -/
inductive PublishAct
  | call (ok : Bool)
  | crash (kept : List DiskChange)
  | start (complete : Bool)

section

variable (p : Publication)

def Publication.call (ok : Bool) : Option Publication :=
  match p.phase, ok with
  | .making, true =>
    let linked := if p.disk.view.parentLinked then [] else [.linkParent]
    some { p with disk.pending := p.disk.pending ++ linked, phase := .syncingTree }
  | .syncingTree, true => some { p with disk := p.disk.sync .stagingTree, phase := .inspecting }
  | .inspecting, true => some { p with phase := .swapping }
  | .swapping, true =>
    let hadPrevious := p.disk.view.atPublicPath.isSome
    some { p with
      disk.pending := p.disk.pending ++ [if hadPrevious then .exchange else .rename]
      phase := .syncingParent hadPrevious }
  | .syncingParent hadPrevious, true =>
    some { p with
      disk := p.disk.sync .parent, phase := if hadPrevious then .syncingTask else .reporting }
  | .syncingTask, true => some { p with disk := p.disk.sync .taskRoot, phase := .removing }
  | .removing, complete =>
    some { p with disk := p.disk.removeStaging complete, phase := .syncingRemoval }
  | .syncingRemoval, true => some { p with disk := p.disk.sync .taskRoot, phase := .reporting }
  | .reporting, true => some { p with phase := .cleaning, reported := true }
  | .cleaning, complete => some { p with disk := p.disk.removeStaging complete, phase := .returned }
  | .returned, _ | .crashed, _ | .started, _ => none
  | _, false => some { p with phase := .cleaning }

def publishStep : PublishAct → Option Publication
  | .call ok => p.call ok
  | .crash kept =>
    if kept.Sublist p.disk.pending ∧ p.phase ≠ .crashed ∧ p.phase ≠ .started then
      some { p with
        disk := { durable := kept.foldl .apply p.disk.durable, pending := [] }, phase := .crashed }
    else none
  | .start complete =>
    if p.phase = .crashed then
      some { p with disk := p.disk.removeStaging complete, phase := .started }
    else none

/-- The extracted tree is about to be published.  There is a public directory, or only its parent,
or neither. -/
def Publication.init (hadPrevious hadParent : Bool) : Publication where
  disk :=
    { durable :=
        { published := if hadPrevious then some .old else none, staging := some .new
          parentLinked := hadPrevious || hadParent, oldIntact := true, newIntact := false }
      pending := [.extract] }
  phase := .making
  reported := false

/-- The condition: the parent of the public path is there, and its sync after an exchange succeeds.
-/
def publishesSafely : PublishAct → Bool
  | .call ok =>
    match p.phase with
    | .making => p.disk.durable.parentLinked
    | .syncingParent true => ok
    | _ => true
  | _ => true

/-- After the start the public path holds what it held or the new tree, complete, and the new tree
if it was reported. -/
def Publication.Atomic (hadPrevious : Bool) (p : Publication) : Prop :=
  p.phase = .started →
    (p.disk.view.atPublicPath = (if hadPrevious then some (.old, true) else none) ∧
        p.reported = false ∨
      p.disk.view.atPublicPath = some (.new, true))
  deriving Decidable

/-! ## Every run -/

/-- The steps that a publication can take under the condition.  A crash keeps one of finitely many
parts of what is pending. -/
def Publication.next : List Publication :=
  let acts := [.call true, .call false, .start true, .start false] ++
    p.disk.pending.sublists.map .crash
  (acts.filter (publishesSafely p)).filterMap (publishStep p)

end

lemma mem_next {p p' : Publication} {act : PublishAct} (hcond : publishesSafely p act)
    (hstep : publishStep p act = some p') : p' ∈ p.next := by
  refine List.mem_filterMap.mpr ⟨act, List.mem_filter.mpr ⟨?_, hcond⟩, hstep⟩
  cases act with
  | call ok | start ok => cases ok <;> simp
  | crash kept =>
    have hkept : kept.Sublist p.disk.pending := by
      by_contra hnot
      simp [publishStep, hnot] at hstep
    simpa using hkept

lemma explores_publication (hadPrevious hadParent : Bool) :
    explores Publication.next (·.Atomic hadPrevious) 14 [.init hadPrevious hadParent] := by
  cases hadPrevious <;> cases hadParent <;> decide +kernel

/-- **Publications are atomic**, in every run that meets the condition. -/
theorem publication_atomic {hadPrevious hadParent : Bool} {acts : List PublishAct} {p : Publication}
    (hmeets : Meets publishStep (fun p a => publishesSafely p a = true)
      (.init hadPrevious hadParent) acts)
    (hrun : run publishStep (.init hadPrevious hadParent) acts = some p) :
    p.Atomic hadPrevious := by
  have hgood := of_explores (fun _ _ _ hcond hstep => mem_next hcond hstep)
    (explores_publication hadPrevious hadParent) (List.mem_singleton_self _) hmeets hrun
  exact of_decide_eq_true hgood

def exchangeLost : List PublishAct :=
  [.call true, .call true, .call true, .call true, .crash [], .start true]

theorem publication_atomic_crash : ∃ p, run publishStep (.init true true) exchangeLost = some p ∧
    p.phase = .started ∧ p.disk.view.atPublicPath = some (.old, true) ∧ p.Atomic true := by
  have hmeets : Meets publishStep (fun p a => publishesSafely p a) (.init true true)
      exchangeLost := by decide +kernel
  exact ⟨_, rfl, rfl, rfl, publication_atomic hmeets rfl⟩

/-- **A publication is not atomic** in two cases.  The sync of the parent fails, the cleanup deletes
the old tree, and the exchange is lost.  And a tree is reported in a directory that is lost. -/
theorem publication_not_atomic :
    (∃ p, run publishStep (.init true true) [.call true, .call true, .call true, .call true,
        .call false, .call true, .crash [.delete .old], .start true] = some p ∧
      p.phase = .started ∧ p.disk.view.atPublicPath = some (.old, false)) ∧
    (∃ p, run publishStep (.init false false) [.call true, .call true, .call true, .call true,
        .call true, .call true, .crash [], .start true] = some p ∧
      p.phase = .started ∧ p.reported = true ∧ p.disk.view.atPublicPath = none) :=
  ⟨⟨_, rfl, rfl, rfl⟩, ⟨_, rfl, rfl, rfl, rfl⟩⟩

end StControl.Agent
