import StControl.Store.Transitions

/-!
# The login handler

`handleLoginRedirect` decides about a login in several steps.  It reads the user row, the node row
and the replica row, each in a statement of its own, and concludes whether the requested node is
the user's home; then it asks the store for a handoff.  The transaction that grants the writer
lease does not look at the home again, it relies on `ExistingWriterOnly`, which the handler has
computed from its reads.

`Site` puts any number of such requests next to the store, and `Site.step` interleaves their steps
with every store transaction.  `writer_granted_off_home` is a run in which a takeover commits
between the reads and the transaction, so that the lease is granted on a node that is not the home
any more.  `new_writers_on_home` proves that this is the only way: when no transaction moves the
home under a request that has read its node to be the home, every lease that is acquired is
acquired on the home.
-/

namespace StControl.Controller

open Store Run Transaction Option Table

/-! ## The handler -/

structure LoginHandoffRequest where
  nodeID : NodeID
  operationID : UUID
  deriving DecidableEq

inductive LoginReads
  | user (user : User)
  | node (user : User) (node : Node)
  | replica (user : User) (node : Node) (replica : UserReplica)
  deriving DecidableEq

structure Login where
  request : LoginHandoffRequest
  reads : LoginReads
  deriving DecidableEq

def LoginReads.userRow : LoginReads → User
  | .user u | .node u _ | .replica u _ _ => u

def nodeReadyForManagedOperation (node : Node) : Bool := node.serving && node.managed

/-- `replicaIsCurrentHome`, for the replica row of the requested node. -/
def replicaIsCurrentHome (user : User) (nodeID : NodeID) (replica : UserReplica) : Bool :=
  user.homeNodeID = some nodeID && replica.kind = .home && replica.state = .ready

def loginAdmitted (request : LoginHandoffRequest) (user : User) (node : Node)
    (replica : UserReplica) : Bool :=
  replica.kind ≠ .archive &&
    (replicaIsCurrentHome user request.nodeID replica ||
      (replica.kind = .hotStandby && replica.state = .ready)) &&
    nodeReadyForManagedOperation node

/-- What the handler adds to a request: random and derived identities, configuration, the clock. -/
structure HandoffMaterial where
  jti : UUID
  secretHash : Digest
  sessionID : UUID
  (issuer keyID : String)
  (ticketTTL leaseTTL : Duration)
  now : Time
  deriving DecidableEq

/-- The parameters with which the handler calls `CreateLoginHandoff`. -/
def handoffParams (request : LoginHandoffRequest) (user : User) (replica : UserReplica)
    (m : HandoffMaterial) : CreateLoginHandoffParams where
  operationID := request.operationID
  jti := m.jti
  secretHash := m.secretHash
  requestedNodeID := request.nodeID
  sessionID := m.sessionID
  issuer := m.issuer
  subject := user.uuid
  keyID := m.keyID
  ticketTTL := m.ticketTTL
  leaseTTL := m.leaseTTL
  existingWriterOnly := !replicaIsCurrentHome user request.nodeID replica
  now := m.now

/-! ## Requests next to the store -/

structure Site where
  db : Db
  logins : Table UUID Login

/-- A transaction of the store, or a step of the handler for the request `id`.  The abort of a
running backup that the handler may ask for is a transaction of its own. -/
inductive SiteAct
  | store (act : Act)
  | readUser (id : UUID) (request : LoginHandoffRequest)
  | readNode (id : UUID)
  | readReplica (id : UUID)
  | handoff (id : UUID) (m : HandoffMaterial)
  | giveUp (id : UUID)

def Act.isHandoff : Act → Bool
  | .createLoginHandoff _ => true
  | _ => false

def Site.forget (site : Site) (id : UUID) : Table UUID Login := site.logins.delete fun k _ => k = id

def Site.step (site : Site) : SiteAct → Option Site
  | .store act =>
    if Act.isHandoff act then none
    else (Store.step site.db act).map fun db => { site with db }
  | .readUser id request =>
    if (site.logins.get? id).isNone && 0 < request.nodeID &&
        site.db.user.legacyStatus = .active then
      some { site with logins := site.logins.put id ⟨request, .user site.db.user⟩ }
    else none
  | .readNode id =>
    match site.logins.get? id with
    | some ⟨request, .user user⟩ =>
      (site.db.nodes.get? request.nodeID).map fun node =>
        { site with logins := site.logins.put id ⟨request, .node user node⟩ }
    | _ => none
  | .readReplica id =>
    match site.logins.get? id with
    | some ⟨request, .node user node⟩ =>
      match site.db.replicas.get? request.nodeID with
      | some replica =>
        if loginAdmitted request user node replica then
          some { site with logins := site.logins.put id ⟨request, .replica user node replica⟩ }
        else none
      | none => none
    | _ => none
  | .handoff id m =>
    match site.logins.get? id with
    | some ⟨request, .replica user _ replica⟩ =>
      (createLoginHandoff (handoffParams request user replica m) site.db).toOption.map
        fun answer => { db := answer.2, logins := site.forget id }
    | _ => none
  | .giveUp id => some { site with logins := site.forget id }

structure Site.Fresh (site : Site) : Prop where
  db : Store.Fresh site.db
  logins : site.logins = ∅

/-! ## The home that a request relies on -/

def Login.claimsHome (login : Login) : Bool :=
  login.reads.userRow.homeNodeID = some login.request.nodeID

def Site.ClaimsHold (site : Site) : Prop :=
  ∀ id login, site.logins.get? id = some login → login.claimsHome →
    site.db.user.homeNodeID = some login.request.nodeID

def movesHome (db : Db) (act : Act) : Bool :=
  (Store.step db act).any fun db' => db'.user.homeNodeID ≠ db.user.homeNodeID

def homeSettled (site : Site) : SiteAct → Bool
  | .store act => !movesHome site.db act || site.logins.all fun _ login => !login.claimsHome
  | _ => true

variable {site site' site₀ : Site}

lemma Site.ClaimsHold.put (h : site.ClaimsHold) {id : UUID} {login login' : Login}
    (hlogin : site.logins.get? id = some login) (hrequest : login'.request = login.request)
    (huser : login'.reads.userRow = login.reads.userRow) :
    Site.ClaimsHold { site with logins := site.logins.put id login' } := by
  intro k l hl hclaims
  obtain ⟨-, rfl⟩ | hl := of_get?_put hl
  · rw [hrequest]
    refine h id login hlogin ?_
    rwa [Login.claimsHome, hrequest, huser] at hclaims
  · exact h k l hl hclaims

lemma createLoginHandoff_home {p : CreateLoginHandoffParams} {db : Db}
    {answer : LoginHandoff × Db} (h : createLoginHandoff p db = .ok answer) :
    answer.2.user.homeNodeID = db.user.homeNodeID :=
  (createLoginHandoff_frame answer h).home

lemma Site.step_claimsHold {act : SiteAct} (h : site.ClaimsHold) (hcond : homeSettled site act)
    (hstep : site.step act = some site') : site'.ClaimsHold := by
  cases act with
  | store act =>
    obtain ⟨-, hstep⟩ := ite_none_left_eq_some.mp hstep
    obtain ⟨db', hdb', rfl⟩ := map_eq_some_iff.mp hstep
    intro id login hlogin hclaims
    simp only [homeSettled, movesHome, hdb', any_some, Bool.or_eq_true,
      Bool.not_eq_true', decide_eq_false_iff_not,
      not_not, Table.all_eq_true] at hcond
    rcases hcond with hhome | hnone
    · rw [hhome]
      exact h id login hlogin hclaims
    · simp [hnone id login hlogin] at hclaims
  | readUser id request =>
    obtain ⟨-, ⟨⟩⟩ := ite_none_right_eq_some.mp hstep
    exact forall_put h of_decide_eq_true
  | readNode id =>
    simp only [Site.step] at hstep
    split at hstep
    next request user hlogin =>
      obtain ⟨node, -, rfl⟩ := map_eq_some_iff.mp hstep
      exact h.put hlogin rfl rfl
    · cases hstep
  | readReplica id =>
    simp only [Site.step] at hstep
    split at hstep
    next request user node hlogin =>
      split at hstep
      next replica _ =>
        obtain ⟨-, ⟨⟩⟩ := ite_none_right_eq_some.mp hstep
        exact h.put hlogin rfl rfl
      · cases hstep
    · cases hstep
  | handoff id m =>
    simp only [Site.step] at hstep
    split at hstep
    next request user node replica hlogin =>
      obtain ⟨answer, hanswer, rfl⟩ := map_eq_some_iff.mp hstep
      refine forall_delete fun k login hlogin hclaims => ?_
      rw [createLoginHandoff_home (toOption_eq_some.mp hanswer)]
      exact h k login hlogin hclaims
    · cases hstep
  | giveUp id =>
    cases hstep
    exact forall_delete h

lemma Site.Fresh.claimsHold (h : site.Fresh) : site.ClaimsHold := by
  intro id login hlogin
  simp [h.logins, get?_empty] at hlogin

/-! ## Where new writers are created -/

/-- If the handoff of request `id` acquires a writer, the writer is on the home that the tables name
when the transaction commits. -/
def GrantsOnHome (site : Site) (id : UUID) (m : HandoffMaterial) : Prop :=
  ∀ request user node replica handoff db',
    site.logins.get? id = some ⟨request, .replica user node replica⟩ →
    createLoginHandoff (handoffParams request user replica m) site.db = .ok (handoff, db') →
    handoff.replayed = false → handoff.acquired →
    ∃ lease, db'.lease = some lease ∧ db'.user.homeNodeID = some lease.writerNodeID

lemma Site.ClaimsHold.grantsOnHome (h : site.ClaimsHold) (id : UUID) (m : HandoffMaterial) :
    GrantsOnHome site id m := by
  intro request user node replica handoff db' hlogin hhandoff hreplayed hacquired
  obtain ⟨hreplay, -⟩ | ⟨generation, lease, outcome, _, hdecision, -, houtcome, -, hdb'⟩ :=
    createLoginHandoff_commit _ hhandoff
  · simp [hreplayed] at hreplay
  obtain rfl : outcome = .acquired := by
    rw [hacquired] at houtcome
    simpa using houtcome.symm
  obtain ⟨hnew, hwriter⟩ := decideLease_acquired hdecision.decided
  have hcurrent : replicaIsCurrentHome user request.nodeID replica := by
    simpa [CreateLoginHandoffParams.leaseParams, handoffParams] using hnew
  have hclaims : (⟨request, .replica user node replica⟩ : Login).claimsHome := by
    simp only [replicaIsCurrentHome, Bool.and_eq_true] at hcurrent
    exact hcurrent.1.1
  have hhome : db'.user.homeNodeID = site.db.user.homeNodeID := createLoginHandoff_home hhandoff
  refine ⟨lease, congrArg Db.lease hdb', ?_⟩
  rw [hhome, h id _ hlogin hclaims, hwriter]
  rfl

/-- **New writers are created on the home.**  In every run in which the home does not move under a
request that relies on it, a handoff that acquires a writer lease acquires it on the home. -/
theorem new_writers_on_home {acts : List SiteAct} (hfresh : site₀.Fresh)
    (hmeets : Meets Site.step (fun s a => homeSettled s a = true) site₀ acts)
    (hrun : run Site.step site₀ acts = some site) (id : UUID) (m : HandoffMaterial) :
    GrantsOnHome site id m :=
  (run_invariant_of_meets (fun _ _ _ h hcond hstep => Site.step_claimsHold h hcond hstep)
    hfresh.claimsHold hmeets hrun).grantsOnHome id m

def sampleSite : Site where
  db := sampleDb
  logins := ∅

lemma sampleSite_fresh : sampleSite.Fresh := ⟨sampleDb_registered.toFresh, rfl⟩

def sampleMaterial (id : UUID) (now : Time) : HandoffMaterial where
  jti := id
  secretHash := 0
  sessionID := id
  issuer := "controller"
  keyID := "key"
  ticketTTL := 60
  leaseTTL := 600
  now := now

/-- The reads of a login to node `1`. -/
def sampleReads : List SiteAct :=
  [.readUser 40 ⟨1, 41⟩, .readNode 40, .readReplica 40]

def sampleReadLogin : Login where
  request := ⟨1, 41⟩
  reads := .replica sampleDb.user sampleCompute
    { kind := .home, state := .ready, dataVersion := 1, lastSyncAt := none }

theorem new_writers_on_home_login :
    ∃ site handoff db', run Site.step sampleSite sampleReads = some site ∧
      createLoginHandoff (handoffParams ⟨1, 41⟩ sampleDb.user
        { kind := .home, state := .ready, dataVersion := 1, lastSyncAt := none }
        (sampleMaterial 70 31)) site.db = .ok (handoff, db') ∧ handoff.acquired = true ∧
      ∃ lease, db'.lease = some lease ∧ db'.user.homeNodeID = some lease.writerNodeID := by
  obtain ⟨site, handoff, db', hrun, hlogin, hhandoff, hreplayed, hacquired⟩ :
      ∃ site handoff db', run Site.step sampleSite sampleReads = some site ∧
        site.logins.get? 40 = some sampleReadLogin ∧
        createLoginHandoff (handoffParams ⟨1, 41⟩ sampleDb.user
          { kind := .home, state := .ready, dataVersion := 1, lastSyncAt := none }
          (sampleMaterial 70 31)) site.db = .ok (handoff, db') ∧
        handoff.replayed = false ∧ handoff.acquired :=
    ⟨_, _, _, rfl, rfl, rfl, rfl, rfl⟩
  exact ⟨site, handoff, db', hrun, hhandoff, hacquired,
    new_writers_on_home sampleSite_fresh (by decide +kernel) hrun 40 (sampleMaterial 70 31) _ _ _ _
    _ _ hlogin
      hhandoff hreplayed hacquired⟩

/-- A standby on node `2` is ready; the handler reads that node `1` is the home; the takeover by
node `2` commits. -/
def takeoverDuringLogin : List SiteAct :=
  (sampleTransfer 50 1 2 .hotStandby 10 ++ [sampleCompletion 50 2 .hotStandby 20]).map .store ++
    sampleReads ++ [.store (.confirmReplicaTakeover (sampleTakeover 60 2 20 30))]

/-- **A writer can be granted off the home.**  The login that was decided before the takeover
acquires the lease on node `1`, and the home is node `2`. -/
theorem writer_granted_off_home :
    ¬ ∀ (site₀ : Site) (home : NodeID) (acts : List SiteAct) (site : Site) (id : UUID)
        (m : HandoffMaterial),
      Registered site₀.db home → site₀.logins = ∅ → run Site.step site₀ acts = some site →
      GrantsOnHome site id m := by
  intro hgrants
  let p := handoffParams ⟨1, 41⟩ sampleDb.user
    { kind := .home, state := .ready, dataVersion := 1, lastSyncAt := none }
    (sampleMaterial 70 31)
  obtain ⟨site, hsite, ⟨handoff, db'⟩, hanswer, hlogin, hreplayed, hacquired, hoff⟩ :
      ∃ site ∈ run Site.step sampleSite takeoverDuringLogin,
        ∃ answer ∈ (createLoginHandoff p site.db).toOption,
          site.logins.get? 40 = some sampleReadLogin ∧ answer.1.replayed = false ∧
            answer.1.acquired ∧ ∀ lease ∈ answer.2.lease,
              answer.2.user.homeNodeID ≠ some lease.writerNodeID := by
    decide +kernel
  obtain ⟨lease, hlease, hgranted⟩ := hgrants sampleSite 1 _ site 40 (sampleMaterial 70 31)
    sampleDb_registered rfl hsite _ _ _ _ handoff db' hlogin (toOption_eq_some.mp hanswer)
    hreplayed hacquired
  exact hoff lease hlease hgranted

end StControl.Controller
