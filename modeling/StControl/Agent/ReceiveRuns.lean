import StControl.Agent.SnapshotTransfers
import StControl.Foundations.Run

/-!
# Receive runs and their receipts

`ReceiveSnapshot` takes several steps, and other runs and commands may come in between.  A run knows
its snapshot only: `finishTransfer` and `publishTransfer` find whatever transfer is armed under that
identity when they are called.  This module runs the agent with any number of receive runs, commands
and restarts.

`Receiver.consumedBy` and the ended runs in `Receiver.runs` record the history; no step reads them.
-/

namespace StControl.Agent

open Run Option Table
open Store (Time)

variable {id : ℕ} {snapshotID : String}

/-! ## Receive runs -/

/-- A call of `ReceiveSnapshot` that has consumed a capability: `tree` is the receipt of the tree
that it has put in place of the public one, and `live` says that it is still executing. -/
structure ReceiveRun where
  (snapshotID capabilityHash : String)
  tree : Option SnapshotTransferReceipt
  live : Bool
  deriving DecidableEq

/-- The receiving agent: its transfers, all runs so far, and for every snapshot the run that
consumed its capability last. -/
structure Receiver where
  transfers : PendingTransfers
  runs : Table ℕ ReceiveRun
  nextRun : ℕ
  consumedBy : Table String ℕ

inductive ReceiveAct
  /-- The command `prepare_snapshot_receive`, with or without a relay. -/
  | prepare (now : Time) (keys : String × String) (payload : PrepareSnapshotReceiveRequest)
  /-- `RunRelayReceive` looks its transfer up. -/
  | relayLookup (now : Time) (snapshotID workflowID taskID : String)
  /-- `ReceiveSnapshot` consumes a capability and goes on as a run. -/
  | consume (now : Time) (snapshotID workflowID token : String)
  /-- A run has verified its archive and put the tree in place. -/
  | swap (run : ℕ) (receipt : SnapshotTransferReceipt)
  /-- A run fails, before or after it has put its tree in place. -/
  | finish (now : Time) (run : ℕ)
  /-- A run records its receipt and returns. -/
  | record (now : Time) (run : ℕ)
  /-- A run returns without a word: its archive file could not be created. -/
  | abandon (run : ℕ)
  /-- `RunRelayReceive` returns. -/
  | failIncomplete (now : Time) (snapshotID : String)
  /-- The agent starts again, without its runs. -/
  | restart (now : Time)

namespace Receiver

def live? (s : Receiver) (run : ℕ) : Option ReceiveRun :=
  (s.runs.get? run).filter (·.live)

def endRun (s : Receiver) (run : ℕ) : Receiver :=
  { s with runs := s.runs.modify run fun r => { r with live := false } }

def idle (s : Receiver) (snapshotID : String) : Bool :=
  s.runs.all fun _ run => !(run.live && run.snapshotID = snapshotID)

def empty : Receiver where
  transfers := ∅
  runs := ∅
  nextRun := 0
  consumedBy := ∅

end Receiver

def receiveStep (env : Env) (config : ReceiveConfig) (s : Receiver) : ReceiveAct → Option Receiver
  | .prepare now keys payload =>
    (prepareSnapshotReceive config now keys payload s.transfers).map fun transfers =>
      { s with transfers := transfers }
  | .relayLookup now snapshotID workflowID taskID =>
    some { s with transfers := s.transfers.relayTransfer snapshotID workflowID taskID now }
  | .consume now snapshotID workflowID token =>
    (s.transfers.consumeTransfer env snapshotID workflowID token now).map fun transfer =>
      { transfers := s.transfers.setState snapshotID .consumed now
        runs := s.runs.put s.nextRun ⟨snapshotID, transfer.capabilityHash, none, true⟩
        nextRun := s.nextRun + 1, consumedBy := s.consumedBy.put snapshotID s.nextRun }
  | .swap run receipt =>
    (s.live? run).map fun _ =>
      { s with runs := s.runs.modify run fun r => { r with tree := some receipt } }
  | .finish now run =>
    (s.live? run).map fun r =>
      { s.endRun run with transfers := s.transfers.finishTransfer r.snapshotID .failed now }
  | .record now run =>
    (s.live? run).bind fun r => r.tree.map fun receipt =>
      { s.endRun run with transfers := s.transfers.publishTransfer r.snapshotID receipt now }
  | .abandon run => (s.live? run).map fun _ => s.endRun run
  | .failIncomplete now snapshotID =>
    some { s with transfers := s.transfers.failTransferIfIncomplete snapshotID now }
  | .restart now =>
    (s.transfers.load config.nodeID now).map fun transfers =>
      { s with
        transfers := transfers, runs := s.runs.mapRows fun _ run => { run with live := false } }

/-- The steps under which a receipt stays with its run: a capability is consumed only while no run
of its snapshot is executing. -/
def Receiver.exclusive (s : Receiver) : ReceiveAct → Bool
  | .consume _ snapshotID _ _ => s.idle snapshotID
  | _ => true

/-! ## The invariant -/

structure ReceiveRun.Ends (r r' : ReceiveRun) : Prop where
  snapshotID : r'.snapshotID = r.snapshotID
  capabilityHash : r'.capabilityHash = r.capabilityHash
  live : r'.live → r.live
  ended : r.live = false → r' = r

lemma ReceiveRun.Ends.refl (r : ReceiveRun) : r.Ends r := ⟨rfl, rfl, id, fun _ => rfl⟩

lemma ReceiveRun.ends (r : ReceiveRun) : r.Ends { r with live := false } :=
  ⟨rfl, rfl, nofun, fun hended => by rw [← hended]⟩

/-- The receipt of a published transfer is that of the tree of the run that consumed its
capability, and it is the last run that consumed one of this snapshot. -/
def Receiver.Describes (s : Receiver) (snapshotID : String) (t : PendingTransfer) : Prop :=
  ∃ id r receipt, s.consumedBy.get? snapshotID = some id ∧ s.runs.get? id = some r ∧
    r.snapshotID = snapshotID ∧ r.capabilityHash = t.capabilityHash ∧ r.tree = some receipt ∧
    t.receipt = some receipt

structure Receiver.Keeps (s : Receiver) (snapshotID : String) (t : PendingTransfer) : Prop where
  keyed : t.snapshotID = snapshotID
  bare : t.state ≠ .published → t.receipt = none
  recorded : t.state = .published → s.Describes snapshotID t
  quiet : t.state = .published → ∀ id r, s.runs.get? id = some r → r.live →
    r.snapshotID ≠ snapshotID
  owner : t.state = .consumed → ∀ id r, s.runs.get? id = some r → r.live →
    r.snapshotID = snapshotID →
    s.consumedBy.get? snapshotID = some id ∧ r.capabilityHash = t.capabilityHash

structure Receiver.Sound (s : Receiver) : Prop where
  rows : ∀ snapshotID t, s.transfers.get? snapshotID = some t → s.Keeps snapshotID t
  unique : ∀ id r id' r', s.runs.get? id = some r → r.live → s.runs.get? id' = some r' →
    r'.live → r.snapshotID = r'.snapshotID → id = id'
  fresh : ∀ id r, s.runs.get? id = some r → id < s.nextRun

open Receiver

lemma Receiver.sound_empty : Receiver.empty.Sound := by
  constructor <;> intros <;> rename_i h <;> simp_all [empty]

variable {r : ReceiveRun}

lemma Receiver.live?_eq_some {s : Receiver} :
    s.live? id = some r ↔ s.runs.get? id = some r ∧ r.live := by
  simp [live?, filter_eq_some_iff]

lemma Receiver.idle_iff {s : Receiver} : s.idle snapshotID ↔
      ∀ id r, s.runs.get? id = some r → r.live → r.snapshotID ≠ snapshotID := by
  rw [Receiver.idle, Table.all_eq_true]
  refine forall₂_congr fun id r => ?_
  cases r.live <;> simp

lemma rel_ends_modify (runs : Table ℕ ReceiveRun) (id : ℕ) : Rel (fun _ => ReceiveRun.Ends) runs
      (runs.modify id fun r => { r with live := false }) :=
  rel_update (fun _ r => .refl r) fun _ r _ => r.ends

variable {s s' : Receiver} {t : PendingTransfer}

lemma Receiver.keeps_of_open (hopen : t.Open) (hkey : t.snapshotID = snapshotID) :
    s.Keeps snapshotID t := by
  refine ⟨hkey, fun _ => hopen.bare, ?_, ?_, ?_⟩ <;> intro hstate <;>
    rcases hopen.waits with hwaits | hwaits <;> rw [hwaits] at hstate <;> cases hstate

lemma Receiver.Keeps.goesOn (h : s.Keeps snapshotID t)
    (hended : ∀ id r, s.runs.get? id = some r → r.live = false → s'.runs.get? id = some r)
    (hruns : ∀ id r', s'.runs.get? id = some r' → r'.live → r'.snapshotID = snapshotID →
      ∃ r, s.runs.get? id = some r ∧ r.Ends r')
    (hby : s'.consumedBy.get? snapshotID = s.consumedBy.get? snapshotID) :
    s'.Keeps snapshotID t := by
  refine ⟨h.keyed, h.bare, fun hstate => ?_, fun hstate id r' hr' hlive hof => ?_,
    fun hstate id r' hr' hlive hof => ?_⟩
  · obtain ⟨id, r, receipt, hid, hr, hof, hrest⟩ := h.recorded hstate
    have hover : r.live = false :=
      (Bool.not_eq_true _).mp fun hlive => h.quiet hstate id r hr hlive hof
    exact ⟨id, r, receipt, hby.trans hid, hended id r hr hover, hof, hrest⟩
  · obtain ⟨r, hr, hends⟩ := hruns id r' hr' hlive hof
    exact h.quiet hstate id r hr (hends.live hlive) (hends.snapshotID.symm.trans hof)
  · obtain ⟨r, hr, hends⟩ := hruns id r' hr' hlive hof
    rw [hby, hends.capabilityHash]
    exact h.owner hstate id r hr (hends.live hlive) (hends.snapshotID.symm.trans hof)

namespace Receiver.Sound

section

variable (h : s.Sound) (hruns : Rel (fun _ => ReceiveRun.Ends) s.runs s'.runs)
  (hnext : s'.nextRun = s.nextRun) (hby : s'.consumedBy = s.consumedBy)
include h hruns hnext hby

lemma retreat (hrows : ∀ snapshotID t', s'.transfers.get? snapshotID = some t' → s.transfers.get?
      snapshotID = some t' ∨ s'.Keeps snapshotID t') : s'.Sound := by
  refine ⟨fun sid t' ht' => ?_, fun id r' id' q' hr' hlive hq' hlive' hsame => ?_,
    fun id r' hr' => ?_⟩
  · rcases hrows sid t' ht' with hold | hkeeps
    · refine (h.rows sid t' hold).goesOn (fun id r hr hover => ?_)
        (fun id r' hr' _ _ => hruns.before hr') (by rw [hby])
      obtain ⟨r', hr', hends⟩ := hruns.after hr
      exact hends.ended hover ▸ hr'
    · exact hkeeps
  · obtain ⟨r, hr, hends⟩ := hruns.before hr'
    obtain ⟨q, hq, hends'⟩ := hruns.before hq'
    rw [hends.snapshotID, hends'.snapshotID] at hsame
    exact h.unique id r id' q hr (hends.live hlive) hq (hends'.live hlive') hsame
  · obtain ⟨r, hr, -⟩ := hruns.before hr'
    rw [hnext]
    exact h.fresh id r hr

lemma reopen (hrows : Rel (fun key t t' => s.transfers.get? key = some t → t' = t ∨ t'.Open ∧
      Follows t t') s.transfers s'.transfers) : s'.Sound ∧ Continues s.transfers s'.transfers := by
  refine ⟨h.retreat hruns hnext hby fun key t' ht' => ?_, fun key t ht => ?_⟩
  · obtain ⟨t, ht, hrow⟩ := hrows.before ht'
    rcases hrow ht with rfl | ⟨hopen, hfollows⟩
    · exact .inl ht
    · exact .inr (keeps_of_open hopen (hfollows.snapshotID.trans (h.rows key t ht).keyed))
  · obtain ⟨t', ht', hrow⟩ := hrows.after ht
    rcases hrow ht with rfl | ⟨-, hfollows⟩
    · exact ⟨t', ht', .refl t'⟩
    · exact ⟨t', ht', hfollows⟩

lemma reopenOne {f : PendingTransfer → PendingTransfer}
    (hrow : ∀ t, s.transfers.get? snapshotID = some t → f t = t ∨ (f t).Open ∧ Follows t (f t))
    (htransfers : s'.transfers = s.transfers.modify snapshotID f) :
    s'.Sound ∧ Continues s.transfers s'.transfers := by
  refine h.reopen hruns hnext hby ?_
  rw [htransfers]
  exact rel_update (fun _ t _ => .inl rfl) fun key t hkey ht =>
    hrow t (of_decide_eq_true hkey ▸ ht)

end

lemma consume (h : s.Sound) (hidle : s.idle snapshotID)
    (ht : s.transfers.get? snapshotID = some t) (hstate : t.state = .prepared) (now : Time) :
    ({ transfers := s.transfers.setState snapshotID .consumed now
       runs := s.runs.put s.nextRun ⟨snapshotID, t.capabilityHash, none, true⟩
       nextRun := s.nextRun + 1
       consumedBy := s.consumedBy.put snapshotID s.nextRun } : Receiver).Sound := by
  have hkeeps := h.rows snapshotID t ht
  have hidle' := idle_iff.mp hidle
  refine ⟨fun key u hu => ?_, fun id r id' r' hr hlive hr' hlive' hsame => ?_, fun id r hr => ?_⟩
  · rw [PendingTransfers.setState, get?_modify] at hu
    by_cases hkey : key = snapshotID
    · subst hkey
      rw [if_pos rfl, ht] at hu
      cases hu
      refine ⟨hkeeps.keyed, fun _ => hkeeps.bare (by rw [hstate]; decide), nofun, nofun,
        fun _ id r hr hlive hof => ?_⟩
      obtain ⟨rfl, rfl⟩ | hr := of_get?_put hr
      · exact ⟨get?_put_self .., rfl⟩
      · exact absurd hof (hidle' id r hr hlive)
    · rw [if_neg hkey] at hu
      refine (h.rows key u hu).goesOn (fun id r hr _ => ?_) (fun id r hr hlive hof => ?_)
        (get?_put_of_ne hkey)
      · exact (get?_put_of_ne (h.fresh id r hr).ne).trans hr
      · obtain ⟨-, rfl⟩ | hr := of_get?_put hr
        · exact absurd hof.symm hkey
        · exact ⟨r, hr, .refl r⟩
  · obtain ⟨rfl, rfl⟩ | hr := of_get?_put hr <;> obtain ⟨hid', rfl⟩ | hr' := of_get?_put hr'
    · exact hid'.symm
    · exact absurd hsame.symm (hidle' id' r' hr' hlive')
    · exact absurd hsame (hidle' id r hr hlive)
    · exact h.unique id r id' r' hr hlive hr' hlive' hsame
  · obtain ⟨rfl, -⟩ | hr := of_get?_put hr
    · exact Nat.lt_succ_self _
    · exact Nat.lt_succ_of_lt (h.fresh id r hr)

lemma swap (h : s.Sound) (hr : s.runs.get? id = some r) (hlive : r.live)
    (receipt : SnapshotTransferReceipt) :
    ({ s with runs := s.runs.modify id fun r => { r with tree := some receipt } } :
      Receiver).Sound := by
  refine h.retreat (rel_modify (fun _ r => .refl r) hr ?_) rfl rfl fun _ _ => .inl
  exact ⟨rfl, rfl, fun _ => hlive, fun hover => nomatch hover.symm.trans hlive⟩

lemma record (h : s.Sound) (hr : s.runs.get? id = some r) (hlive : r.live)
    {receipt : SnapshotTransferReceipt} (htree : r.tree = some receipt) (now : Time) :
    ({ s.endRun id with transfers := s.transfers.publishTransfer r.snapshotID receipt now } :
      Receiver).Sound := by
  by_cases hconsumed : ∃ t, s.transfers.get? r.snapshotID = some t ∧ t.state = .consumed
  case neg =>
    -- The transfer is not consumed any more and takes no receipt.
    have hkept : ∀ t, s.transfers.get? r.snapshotID = some t → (if t.state = .consumed then
          { t with state := .published, receipt := some receipt, updatedAt := now }
        else t) = t :=
      fun t ht => if_neg fun hstate => hconsumed ⟨t, ht, hstate⟩
    refine And.left (h.reopenOne (rel_ends_modify s.runs id) ?_ ?_
      (fun t ht => .inl (hkept t ht)) ?_)
    all_goals rfl
  case pos =>
  obtain ⟨t, ht, hstate⟩ := hconsumed
  have hkeeps := h.rows r.snapshotID t ht
  obtain ⟨hby, hcapability⟩ := hkeeps.owner hstate id r hr hlive rfl
  have hends := rel_ends_modify s.runs id
  have hended : (s.endRun id).runs.get? id = some { r with live := false } := by
    rw [endRun, get?_modify_self, hr]
    rfl
  refine h.retreat hends rfl rfl fun key u hu => ?_
  rw [PendingTransfers.publishTransfer, get?_modify] at hu
  by_cases hkey : key = r.snapshotID
  · rw [if_pos hkey, ht, map_some, if_pos hstate] at hu
    cases hu
    subst hkey
    refine .inr ⟨hkeeps.keyed, nofun, fun _ => ⟨id, _, receipt, hby, hended, rfl, hcapability,
      htree, rfl⟩, fun _ key q' hq' hlive' hsame => ?_, nofun⟩
    -- The run has ended, and it was the only one of its snapshot.
    obtain ⟨q, hq, hqends⟩ := hends.before hq'
    obtain rfl : key = id := h.unique key q id r hq (hqends.live hlive') hr hlive
      (hqends.snapshotID.symm.trans hsame)
    cases hended.symm.trans hq'
    cases hlive'
  · rw [if_neg hkey] at hu
    exact .inl hu

section

variable (h : s.Sound)
include h

lemma arm {transfers : PendingTransfers} (harms : s.transfers.Arms transfers) :
    ({ s with transfers } : Receiver).Sound ∧ Continues s.transfers transfers := by
  rcases harms with rfl | ⟨armed, hopen, rfl, hreplaced⟩
  · exact ⟨h, .refl _⟩
  have hruns : Rel (fun _ => ReceiveRun.Ends) s.runs s.runs :=
    Table.Rel.refl (fun _ r => .refl r) s.runs
  refine ⟨h.retreat hruns rfl rfl fun key t' ht' => ?_, fun key t ht => ?_⟩
  · obtain ⟨hkey, rfl⟩ | ht' := of_get?_put ht'
    · exact .inr (keeps_of_open hopen hkey.symm)
    · exact .inl ht'
  · rw [get?_put]
    by_cases hkey : key = armed.snapshotID
    · rw [if_pos hkey]
      obtain ⟨hscope, hstate⟩ := hreplaced t (hkey ▸ ht)
      exact ⟨armed, rfl, hscope, fun hp => absurd hp hstate⟩
    · rw [if_neg hkey]
      exact ⟨t, ht, .refl t⟩

lemma fails (ht : s.transfers.get? snapshotID = some t) (hstate : t.state ≠ .published)
    (now : Time) : ({ t with state := .failed, updatedAt := now } : PendingTransfer).Open ∧
      Follows t { t with state := .failed, updatedAt := now } := by
  have hbare : t.receipt = none := (h.rows snapshotID t ht).bare hstate
  exact ⟨⟨.inr rfl, hbare⟩, rfl, fun hp => absurd hp hstate⟩

lemma failIfIncomplete (ht : s.transfers.get? snapshotID = some t) (now : Time) :
    t.failIfIncomplete now = t ∨
      (t.failIfIncomplete now).Open ∧ Follows t (t.failIfIncomplete now) := by
  unfold PendingTransfer.failIfIncomplete
  split
  next hstate =>
    have hopen : t.state ≠ .published := by
      rcases hstate with hstate | hstate <;> rw [hstate] <;> decide
    exact .inr (h.fails ht hopen now)
  next => exact .inl rfl

lemma resume (ht : s.transfers.get? snapshotID = some t) (now : Time) :
    t.resume now = t ∨ (t.resume now).Open ∧ Follows t (t.resume now) := by
  unfold PendingTransfer.resume
  split
  next hstate =>
    have hopen : t.state ≠ .published := by
      rw [hstate]
      decide
    have hwaits : (if now < t.expiresAt then TransferState.prepared else .failed) = .prepared ∨
        (if now < t.expiresAt then TransferState.prepared else .failed) = .failed := by
      split
      · exact .inl rfl
      · exact .inr rfl
    exact .inr ⟨⟨hwaits, (h.rows snapshotID t ht).bare hopen⟩, rfl, fun hp => absurd hp hopen⟩
  next => exact .inl rfl

end

end Receiver.Sound

/-! ## What a step does -/

lemma Receiver.Sound.step {env : Env} {config : ReceiveConfig} {s s' : Receiver} {act : ReceiveAct}
    (h : s.Sound) (hexclusive : s.exclusive act) (hstep : receiveStep env config s act = some s') :
    s'.Sound ∧ Continues s.transfers s'.transfers := by
  have hruns : Rel (fun _ => ReceiveRun.Ends) s.runs s.runs :=
    Table.Rel.refl (fun _ r => .refl r) s.runs
  cases act with
  | prepare now keys payload =>
    obtain ⟨transfers, hprepare, rfl⟩ := map_eq_some_iff.mp hstep
    exact h.arm (arms_prepareSnapshotReceive hprepare)
  | relayLookup now snapshotID workflowID taskID =>
    cases hstep
    rcases relayTransfer_eq_modify snapshotID workflowID taskID now s.transfers with
      heq | ⟨hconsumed, heq⟩
    · rw [heq]
      exact ⟨h, .refl _⟩
    have hopen : ∀ t, s.transfers.get? snapshotID = some t → t.state ≠ .published := by
      intro t ht
      rw [hconsumed t ht]
      decide
    rw [heq]
    exact h.reopenOne hruns rfl rfl (fun t ht => .inr (h.fails ht (hopen t ht) now)) rfl
  | consume now snapshotID workflowID token =>
    obtain ⟨t, hconsume, rfl⟩ := map_eq_some_iff.mp hstep
    obtain ⟨ht, hstate⟩ := of_consumeTransfer hconsume
    refine ⟨h.consume hexclusive ht hstate now, continues_modify fun u hu => ?_⟩
    cases ht.symm.trans hu
    exact ⟨rfl, fun hp => absurd (hstate.symm.trans hp) (by decide)⟩
  | swap id receipt =>
    obtain ⟨r, hr, rfl⟩ := map_eq_some_iff.mp hstep
    obtain ⟨hr, hlive⟩ := live?_eq_some.mp hr
    exact ⟨h.swap hr hlive receipt, .refl _⟩
  | finish now id =>
    obtain ⟨r, hr, rfl⟩ := map_eq_some_iff.mp hstep
    obtain ⟨hr, hlive⟩ := live?_eq_some.mp hr
    have hopen : ∀ t, s.transfers.get? r.snapshotID = some t → t.state ≠ .published :=
      fun t ht hstate => (h.rows _ t ht).quiet hstate id r hr hlive rfl
    exact h.reopenOne (rel_ends_modify s.runs id) rfl rfl
      (fun t ht => .inr (h.fails ht (hopen t ht) now)) rfl
  | record now id =>
    obtain ⟨r, hr, hrecord⟩ := bind_eq_some_iff.mp hstep
    obtain ⟨receipt, htree, rfl⟩ := map_eq_some_iff.mp hrecord
    obtain ⟨hr, hlive⟩ := live?_eq_some.mp hr
    refine ⟨h.record hr hlive htree now, continues_modify fun t ht => ?_⟩
    split
    next hstate => exact ⟨rfl, fun hp => absurd (hstate.symm.trans hp) (by decide)⟩
    next => exact .refl t
  | abandon id =>
    obtain ⟨r, hr, rfl⟩ := map_eq_some_iff.mp hstep
    exact ⟨h.retreat (rel_ends_modify s.runs id) rfl rfl fun _ _ => .inl, .refl _⟩
  | failIncomplete now snapshotID =>
    cases hstep
    exact h.reopenOne hruns rfl rfl (fun t ht => h.failIfIncomplete ht now) rfl
  | restart now =>
    obtain ⟨transfers, hload, rfl⟩ := map_eq_some_iff.mp hstep
    obtain ⟨-, ⟨⟩⟩ := ite_none_right_eq_some.mp hload
    exact h.reopen (rel_mapRows fun _ r => r.ends) rfl rfl
      (rel_mapRows fun key t ht => h.resume ht now)

/-! ## Transfers are sound -/

/-- **Runs that do not overtake each other keep the transfers sound.**  In every run of the agent in
which a capability is consumed only while no run of its snapshot is executing, at every state `s` on
the way to `s'`: a transfer that is not published carries no receipt; the receipt of a transfer is
that of the tree that the run put in place which consumed its capability; the scope of a snapshot is
the same in `s'`, and what is published in `s` is published in `s'` with the same receipt. -/
theorem transfers_sound {env : Env} {config : ReceiveConfig} {acts₁ acts₂ : List ReceiveAct}
    {s s' : Receiver} (hrun : run (receiveStep env config) .empty acts₁ = some s)
    (hrun' : run (receiveStep env config) s acts₂ = some s')
    (hmeets : Meets (receiveStep env config) (fun t act => t.exclusive act = true) .empty
      (acts₁ ++ acts₂)) : ∀ snapshotID t, s.transfers.get? snapshotID = some t →
      (t.state ≠ .published → t.receipt = none) ∧
      (∀ receipt, t.receipt = some receipt → ∃ id r, s.consumedBy.get? snapshotID = some id ∧
        s.runs.get? id = some r ∧ r.snapshotID = snapshotID ∧
        r.capabilityHash = t.capabilityHash ∧ r.tree = some receipt) ∧
      ∃ t', s'.transfers.get? snapshotID = some t' ∧ sameTransferScope t t' = true ∧
        (t.state = .published → t'.state = .published ∧ t'.receipt = t.receipt) := by
  obtain ⟨hmeets₁, hmeets₂⟩ := meets_append.mp hmeets
  have hsound : s.Sound := run_invariant_of_meets
    (fun _ _ _ h hexclusive hstep => (h.step hexclusive hstep).1) sound_empty hmeets₁ hrun
  have hcontinues : s'.Sound ∧ Continues s.transfers s'.transfers :=
    run_invariant_of_meets (P := fun u => u.Sound ∧ Continues s.transfers u.transfers)
      (fun u act v ⟨hu, hcontinues⟩ hexclusive hstep =>
        have hv := hu.step hexclusive hstep
        ⟨hv.1, hcontinues.trans hv.2⟩)
      ⟨hsound, .refl _⟩ (hmeets₂ s hrun) hrun'
  intro snapshotID t ht
  obtain ⟨t', ht', hfollows⟩ := hcontinues.2 snapshotID t ht
  have hkeeps := hsound.rows snapshotID t ht
  refine ⟨hkeeps.bare, fun receipt hreceipt => ?_, t', ht',
    sameTransferScope_iff.mpr hfollows.scope, fun hpublished => ?_⟩
  · have hpublished : t.state = .published := by
      by_contra hnot
      rw [hkeeps.bare hnot] at hreceipt
      cases hreceipt
    obtain ⟨id, r, written, hid, hr, hof, hcapability, htree, hwritten⟩ :=
      hkeeps.recorded hpublished
    cases hreceipt.symm.trans hwritten
    exact ⟨id, r, hid, hr, hof, hcapability, htree⟩
  · rw [hfollows.published hpublished]
    exact ⟨hpublished, rfl⟩

/-! ## A retry by relay, and a run that is overtaken -/

namespace SampleReceiver

def node : ReceiveConfig := ⟨7, .compute⟩

/-- Digests in which the tokens `"one"` and `"two"` differ. -/
def env : Env where
  digest token :=
    if token = "one" then "1111111111111111111111111111111111111111111111111111111111111111"
    else "2222222222222222222222222222222222222222222222222222222222222222"
  toLower text := text

def workflow : String := "6f1c2d3e-4a5b-4c6d-8e7f-901234567890"

def snapshot : String := "0a1b2c3d-4e5f-4a6b-8c7d-8e9f0a1b2c3d"

def relayTask : String := "1b2c3d4e-5f6a-4b7c-9d8e-9f0a1b2c3d4e"

/-- The command that arms a capability for a restore of the data of `alice`. -/
def restore (token : String) (expiresAt : Time) (relayTaskID : String) :
    PrepareSnapshotReceiveRequest where
  workflowID := workflow
  snapshotID := snapshot
  globalUserID := 5
  handle := "alice"
  destinationKind := .restore
  sourceNodeID := 3
  activityEpoch := 2
  capabilityHash := env.digest token
  expiresAt := expiresAt
  relayTaskID := relayTaskID

def receipt (archive : String) : SnapshotTransferReceipt :=
  ⟨true, snapshot, env.digest "one", archive, 3, 4096, false⟩

/-- The first attempt dies with the agent and is failed by the next lookup; a second one, by relay
under a new capability, publishes; and the agent starts once more. -/
def retryActs : List ReceiveAct :=
  [.prepare 100 ("", "") (restore "one" 1000 ""), .consume 110 snapshot workflow "one",
    .finish 120 0,
    .prepare 200 ("private", "public") (restore "two" 2000 relayTask),
    .relayLookup 210 snapshot workflow relayTask, .consume 220 snapshot workflow "two",
    .swap 1 (receipt "b"), .record 230 1, .failIncomplete 240 snapshot]

/-- The first run is slow, its capability expires, and the restore is armed and consumed again.
Then the first run records its tree, and the second fails. -/
def overtakenActs : List ReceiveAct :=
  [.prepare 100 ("", "") (restore "one" 1000 ""), .consume 110 snapshot workflow "one",
    .swap 0 (receipt "a"), .prepare 1000 ("", "") (restore "two" 2000 ""),
    .consume 1010 snapshot workflow "two", .record 1020 0]

def retried : Receiver := (run (receiveStep env node) .empty retryActs).getD .empty

def restarted : Receiver := (run (receiveStep env node) retried [.restart 300]).getD .empty

def overtaken : Receiver := (run (receiveStep env node) .empty overtakenActs).getD .empty

def broken : Receiver := (run (receiveStep env node) overtaken [.finish 1030 1]).getD .empty

end SampleReceiver

open SampleReceiver in
/-- After the retry the transfer is published with the receipt of the second run, and it is so after
the start of the agent. -/
theorem transfers_sound_retry : run (receiveStep env node) .empty retryActs = some retried ∧
      run (receiveStep env node) retried [.restart 300] = some restarted ∧
      ((retried.transfers.get? snapshot).map (·.state)) = some .published ∧
      ∀ t, retried.transfers.get? snapshot = some t →
        (∀ written, t.receipt = some written → ∃ id r, retried.consumedBy.get? snapshot = some id ∧
          retried.runs.get? id = some r ∧ r.snapshotID = snapshot ∧
          r.capabilityHash = t.capabilityHash ∧ r.tree = some written) ∧
        ∃ t', restarted.transfers.get? snapshot = some t' ∧ sameTransferScope t t' = true ∧
          (t.state = .published → t'.state = .published ∧ t'.receipt = t.receipt) := by
  have hrun : run (receiveStep env node) .empty retryActs = some retried := rfl
  have hrun' : run (receiveStep env node) retried [.restart 300] = some restarted := rfl
  have hfacts : Meets (receiveStep env node) (fun t act => t.exclusive act) .empty
      (retryActs ++ [.restart 300]) ∧
      (retried.transfers.get? snapshot).map (·.state) = some .published := by decide +kernel
  have hsound := transfers_sound hrun hrun' hfacts.1
  exact ⟨hrun, hrun', hfacts.2, fun t ht => (hsound snapshot t ht).2⟩

open SampleReceiver in
/-- **A run that is overtaken.**  The receipt that is recorded under the second capability is that
of the first run, while the second has put nothing in place; then the second fails, and the transfer
is no longer published but still carries the receipt. -/
theorem overtaken_run_breaks_transfer :
    run (receiveStep env node) .empty overtakenActs = some overtaken ∧
      run (receiveStep env node) overtaken [.finish 1030 1] = some broken ∧
      (overtaken.transfers.get? snapshot).map (fun t => (t.state, t.capabilityHash, t.receipt)) =
        some (.published, env.digest "two", some (receipt "a")) ∧
      overtaken.runs.get? 1 = some ⟨snapshot, env.digest "two", none, true⟩ ∧
      (broken.transfers.get? snapshot).map (fun t => (t.state, t.receipt)) =
        some (.failed, some (receipt "a")) ∧
      (broken.transfers.load node.nodeID 1040).isNone = true :=
  ⟨rfl, rfl, by decide +kernel⟩

end StControl.Agent
