import StControl.Foundations.Run

/-!
# Upgrading the agent

`ApplyPreparedAgentUpgrade` checks the staged binary again, copies the present one to `.previous`,
renames the staged one over it and restarts the service.  If the service does not stay up, the new
binary is moved aside and the copy is renamed back.  A rename is atomic; every operation may fail,
and the machine may stop between any two, so a crash finds what some run reaches.

The forward swap never leaves the path empty.  The rollback does: between its two renames the path
names no file, and it stays so if the second one fails (`rollback_loses_binary`).
`upgrade_target_intact` says that there is no other such moment.
-/

namespace StControl.Agent

open Run

/-- The next operation; `returned` after the last one. -/
inductive UpgradePhase
  | verifying | removingBackup | openingCopy | copying | publishingCopy | installing | restarting
  | settingAside | restoring | returned
  deriving DecidableEq

variable {β : Type}

/-- The files beside the service binary, by their contents.  The temporary file of the copy is
`some none` while it is being written. -/
structure UpgradeFiles (β : Type) where
  (target staged backup : Option β)
  temporary : Option (Option β)
  failed : Option β
  phase : UpgradePhase

section

variable (expected : β → Bool)

/-- The next operation succeeds or fails.  `expected` are the binaries with the expected digest and
version. -/
def upgradeStep (s : UpgradeFiles β) (ok : Bool) : Option (UpgradeFiles β) :=
  match s.phase, ok with
  | .verifying, true => some { s with
      phase := if s.staged.any expected then .removingBackup else .returned }
  | .removingBackup, true => some { s with backup := none, phase := .openingCopy }
  | .removingBackup, false => some { s with phase := .openingCopy }
  | .openingCopy, true => some { s with temporary := some none, phase := .copying }
  | .copying, true => some { s with temporary := some s.target, phase := .publishingCopy }
  | .copying, false => some { s with temporary := none, phase := .returned }
  | .publishingCopy, true => some { s with
      backup := s.temporary.join, temporary := none, phase := .installing }
  | .installing, true => some { s with target := s.staged, staged := none, phase := .restarting }
  | .restarting, true => some { s with phase := .returned }
  | .restarting, false => some { s with phase := .settingAside }
  | .settingAside, true => some { s with failed := s.target, target := none, phase := .restoring }
  | .settingAside, false => some { s with phase := .restoring }
  | .restoring, true => some { s with target := s.backup, backup := none, phase := .returned }
  | .returned, _ => none
  | _, false => some { s with phase := .returned }

def UpgradeFiles.Intact (old : β) (s : UpgradeFiles β) : Prop :=
  ∃ binary, s.target = some binary ∧ (binary = old ∨ expected binary)

/-- The outcomes of the operations up to the restart of the new binary, which fails: `removed` says
whether there was an earlier copy to remove. -/
def failedRestart (removed : Bool) : List Bool := [true, removed, true, true, true, true, false]

/-- The first rename of the rollback has succeeded, and the second one has failed or was not made.
-/
def rollbackCut (oks : List Bool) : Prop :=
  ∃ removed, oks = failedRestart removed ++ [true] ∨ oks = failedRestart removed ++ [true, false]

def UpgradeFiles.Consistent (old : β) (oks : List Bool) (s : UpgradeFiles β) : Prop :=
  match s.phase with
  | .verifying => oks = [] ∧ s.target = some old
  | .removingBackup => oks = [true] ∧ s.target = some old ∧ s.staged.any expected
  | .openingCopy => (∃ removed, oks = [true, removed]) ∧ s.target = some old ∧ s.staged.any expected
  | .copying =>
    (∃ removed, oks = [true, removed, true]) ∧ s.target = some old ∧ s.staged.any expected
  | .publishingCopy => (∃ removed, oks = [true, removed, true, true]) ∧ s.target = some old ∧
      s.staged.any expected ∧ s.temporary = some (some old)
  | .installing => (∃ removed, oks = [true, removed, true, true, true]) ∧ s.target = some old ∧
      s.staged.any expected ∧ s.backup = some old
  | .restarting => (∃ removed, oks = [true, removed, true, true, true, true]) ∧
      s.Intact expected old ∧ s.backup = some old
  | .settingAside =>
    (∃ removed, oks = failedRestart removed) ∧ s.Intact expected old ∧ s.backup = some old
  | .restoring => (∃ removed, oks = failedRestart removed ++ [true] ∧ s.target = none ∨
      oks = failedRestart removed ++ [false] ∧ s.Intact expected old) ∧ s.backup = some old
  | .returned => (∃ removed, oks = failedRestart removed ++ [true, false]) ∧ s.target = none ∨
      ¬ rollbackCut oks ∧ s.Intact expected old

end

variable {expected : β → Bool} {old : β} {s s' : UpgradeFiles β} {oks : List Bool} {ok : Bool}

lemma not_rollbackCut_of_length (hshort : oks.length < 8) : ¬ rollbackCut oks := by
  rintro ⟨removed, rfl | rfl⟩ <;> simp [failedRestart] at hshort

lemma UpgradeFiles.Consistent.step (h : s.Consistent expected old oks)
    (hstep : upgradeStep expected s ok = some s') :
    s'.Consistent expected old (oks ++ [ok]) := by
  obtain ⟨target, staged, backup, temporary, failed, phase⟩ := s
  have hold : target = some old →
      ({ target, staged, backup, temporary, failed, phase } : UpgradeFiles β).Intact expected old :=
    fun htarget => ⟨old, htarget, .inl rfl⟩
  cases phase with
  | verifying =>
    obtain ⟨rfl, htarget⟩ := h
    cases ok with
    | false =>
      cases hstep
      exact .inr ⟨not_rollbackCut_of_length (by simp), hold htarget⟩
    | true =>
      cases hstep
      by_cases hstaged : staged.any expected
      · simp only [UpgradeFiles.Consistent, if_pos hstaged]
        exact ⟨rfl, htarget, hstaged⟩
      · simp only [UpgradeFiles.Consistent, if_neg hstaged]
        exact .inr ⟨not_rollbackCut_of_length (by simp), hold htarget⟩
  | removingBackup =>
    obtain ⟨rfl, hrest⟩ := h
    cases ok <;> cases hstep <;> exact ⟨⟨_, rfl⟩, hrest⟩
  | openingCopy =>
    obtain ⟨⟨removed, rfl⟩, hrest⟩ := h
    cases ok <;> cases hstep
    · exact .inr ⟨not_rollbackCut_of_length (by simp), hold hrest.1⟩
    · exact ⟨⟨removed, rfl⟩, hrest⟩
  | copying =>
    obtain ⟨⟨removed, rfl⟩, hrest⟩ := h
    cases ok <;> cases hstep
    · exact .inr ⟨not_rollbackCut_of_length (by simp), hold hrest.1⟩
    · exact ⟨⟨removed, rfl⟩, hrest.1, hrest.2, congrArg some hrest.1⟩
  | publishingCopy =>
    obtain ⟨⟨removed, rfl⟩, hrest⟩ := h
    cases ok <;> cases hstep
    · exact .inr ⟨not_rollbackCut_of_length (by simp), hold hrest.1⟩
    · exact ⟨⟨removed, rfl⟩, hrest.1, hrest.2.1, congrArg Option.join hrest.2.2⟩
  | installing =>
    obtain ⟨⟨removed, rfl⟩, htarget, hstaged, hbackup⟩ := h
    cases ok <;> cases hstep
    · exact .inr ⟨not_rollbackCut_of_length (by simp), hold htarget⟩
    · obtain ⟨binary, hbinary, hexpected⟩ := (Option.any_eq_true _ _).mp hstaged
      exact ⟨⟨removed, rfl⟩, ⟨binary, hbinary, .inr hexpected⟩, hbackup⟩
  | restarting =>
    obtain ⟨⟨removed, rfl⟩, hintact, hbackup⟩ := h
    cases ok <;> cases hstep
    · exact ⟨⟨removed, rfl⟩, hintact, hbackup⟩
    · exact .inr ⟨not_rollbackCut_of_length (by simp), hintact⟩
  | settingAside =>
    obtain ⟨⟨removed, rfl⟩, hintact, hbackup⟩ := h
    cases ok <;> cases hstep
    · exact ⟨⟨removed, .inr ⟨rfl, hintact⟩⟩, hbackup⟩
    · exact ⟨⟨removed, .inl ⟨rfl, rfl⟩⟩, hbackup⟩
  | restoring =>
    obtain ⟨⟨removed, hbefore⟩, hbackup⟩ := h
    cases ok <;> cases hstep
    · rcases hbefore with ⟨rfl, hnone⟩ | ⟨rfl, hintact⟩
      · exact .inl ⟨⟨removed, rfl⟩, hnone⟩
      · exact .inr ⟨by simp [rollbackCut, failedRestart], hintact⟩
    · refine .inr ⟨?_, old, hbackup, .inl rfl⟩
      rcases hbefore with ⟨rfl, -⟩ | ⟨rfl, -⟩ <;> simp [rollbackCut, failedRestart]
  | returned => cases hstep

lemma UpgradeFiles.Consistent.target (h : s.Consistent expected old oks) :
    rollbackCut oks ∧ s.target = none ∨ ¬ rollbackCut oks ∧ s.Intact expected old := by
  have hold : s.target = some old → s.Intact expected old := fun htarget => ⟨old, htarget, .inl rfl⟩
  unfold UpgradeFiles.Consistent at h
  generalize s.phase = phase at h
  cases phase with
  | verifying =>
    obtain ⟨rfl, htarget⟩ := h
    exact .inr ⟨not_rollbackCut_of_length (by simp), hold htarget⟩
  | removingBackup =>
    obtain ⟨rfl, htarget, -⟩ := h
    exact .inr ⟨not_rollbackCut_of_length (by simp), hold htarget⟩
  | openingCopy | copying | publishingCopy | installing =>
    obtain ⟨⟨removed, rfl⟩, htarget, -⟩ := h
    exact .inr ⟨not_rollbackCut_of_length (by simp), hold htarget⟩
  | restarting | settingAside =>
    obtain ⟨⟨removed, rfl⟩, hintact, -⟩ := h
    exact .inr ⟨not_rollbackCut_of_length (by simp [failedRestart]), hintact⟩
  | restoring =>
    obtain ⟨⟨removed, ⟨rfl, hnone⟩ | ⟨rfl, hintact⟩⟩, -⟩ := h
    · exact .inl ⟨⟨removed, .inl rfl⟩, hnone⟩
    · exact .inr ⟨by simp [rollbackCut, failedRestart], hintact⟩
  | returned =>
    exact h.imp_left fun hlost => ⟨hlost.1.imp fun _ => .inr, hlost.2⟩

/-- **The service binary is in place outside the rollback.**  Wherever an upgrade is interrupted and
whatever fails, the path names a complete executable, the old one or the new one, exactly unless the
operations end with the first rename of the rollback, or with the second one, which fails. -/
theorem upgrade_target_intact {start : UpgradeFiles β}
    (htarget : start.target = some old) (hphase : start.phase = .verifying)
    (hrun : run (upgradeStep expected) start oks = some s) :
    s.Intact expected old ↔ ¬ rollbackCut oks := by
  have hstart : start.Consistent expected old [] := by
    rw [UpgradeFiles.Consistent, hphase]
    exact ⟨rfl, htarget⟩
  have hs : s.Consistent expected old oks := run_history (fun _ _ _ _ h => h.step) hstart hrun
  rcases hs.target with ⟨hcut, hnone⟩ | ⟨hnot, hintact⟩
  · refine iff_of_false ?_ (not_not.mpr hcut)
    rintro ⟨binary, hbinary, -⟩
    cases hnone.symm.trans hbinary
  · exact iff_of_true hintact hnot

/-- Binary `1` is replaced by binary `2`, whose service does not stay up, up to the rollback. -/
def unstableUpgrade (rollback : List Bool) : Option (UpgradeFiles ℕ) :=
  run (upgradeStep (· = 2)) ⟨some 1, some 2, none, none, none, .verifying⟩
    (failedRestart true ++ rollback)

theorem upgrade_target_intact_rolled_back :
    ∃ s, unstableUpgrade [true, true] = some s ∧ s.target = some 1 ∧ s.Intact (· = 2) 1 := by
  obtain ⟨s, hrun, htarget⟩ : ∃ s ∈ unstableUpgrade [true, true], s.target = some 1 := by
    decide +kernel
  exact ⟨s, hrun, htarget,
    (upgrade_target_intact rfl rfl hrun).mpr (by simp [rollbackCut, failedRestart])⟩

/-- **The rollback leaves no binary** if the machine stops between its renames, or if the second one
fails. -/
theorem rollback_loses_binary : (∃ s, unstableUpgrade [true] = some s ∧ s.target = none) ∧
      ∃ s, unstableUpgrade [true, false] = some s ∧ s.target = none := by
  have hcrash : ∃ s ∈ unstableUpgrade [true], s.target = none := by decide +kernel
  have hfailure : ∃ s ∈ unstableUpgrade [true, false], s.target = none := by decide +kernel
  exact ⟨hcrash, hfailure⟩

end StControl.Agent
