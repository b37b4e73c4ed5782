import Towerdesk.Lib.Turns
import Towerdesk.Parties.Provisioning

/-!
# Resolving a party before an owner is created for it

An organisation looks a party up by an identifier and gets a signed token for the one it finds;
with that token, or with the identifier itself, it later creates an owner. The calls of all
organisations take their statements in turns. No owner stands for a party that somebody else
registered unless the user who created it has looked the party up in that organisation before,
and the audit shows it.
-/

namespace Towerdesk.Parties.Resolution

open Script (query atomic)
open Transaction (final)

structure Issued where
  token : String
  payload : ResolutionTokenPayload
deriving DecidableEq

/-- The tables, and every token that has been signed. -/
structure Registry where
  db : Db
  issued : List Issued

/-- The token library under the secret of resolution tokens: what it accepts has been signed
under that secret. -/
structure TokenLibrary where
  sign : Date → ResolutionTokenPayload → String
  verify : Date → List Issued → String → Option ResolutionTokenPayload
  issued_of_verify : ∀ {now issued token payload}, verify now issued token = some payload →
    ⟨token, payload⟩ ∈ issued

/-- What one call draws. -/
structure Draw where
  now : Date
  partyId : Id
  identifierId : Id
  auditId : Id
  ownerId : Id
  lookupNonce : Nonce
  storedNonce : Nonce

structure ResolvedParty where
  party : Option Party
  maskedIdentifier : String

structure ResolvedPartySummary where
  partyType : PartyType
  displayNameEn : String
  displayNameAr : Option String
  maskedIdentifier : String
deriving DecidableEq

structure ResolvePartyResponse where
  matchFound : Bool
  party : Option ResolvedPartySummary
  resolutionToken : Option String
deriving DecidableEq

structure UpdateOwnerDto where
  name : Field String
  email : Field String
  phone : Field String
  address : Field String
  isActive : Field Bool
deriving DecidableEq

abbrev Call := Script Registry HttpException

/-- What touches the tables only. -/
def onDb {α : Type} (w : Service α) : EStateM HttpException Registry α := fun s =>
  match w s.db with
  | .ok a db => .ok a { s with db }
  | .error e db => .error e { s with db }

def maskIdentifier (normalizedValue : String) : String :=
  let visible := String.ofList (normalizedValue.toList.drop (normalizedValue.toList.length - 4))
  if visible = "" then "***" else "***" ++ visible

section Services

variable (platform : Platform) (library : TokenLibrary) (draw : Draw)

def Draw.env (s : Registry) : Env where
  partyId := draw.partyId
  identifierId := draw.identifierId
  auditId := draw.auditId
  ownerId := draw.ownerId
  lookupNonce := draw.lookupNonce
  storedNonce := draw.storedNonce
  verifyToken := library.verify draw.now s.issued

def step (w : Env → Db → Result Db) : Call Unit :=
  atomic fun s => onDb (statement (w (draw.env library s))) s

def lookupAudit (actorUserId actorOrgId : Id) (input : IdentifierInput) (lookupHmac : String)
    (found : Option (Id × Option Party)) : OwnerRegistryLookupAudit where
  id := draw.auditId
  actorUserId
  actorOrgId
  identifierType := input.identifierType
  lookupHmac
  resultStatus := if found.isSome then .MATCH_FOUND else .NO_MATCH
  matchedPartyId := found.map (·.1)

def findPartyByIdentifierExact (actorUserId actorOrgId : Id) (input : IdentifierInput) :
    Call ResolvedParty := do
  Script.done (assertStrongIdentifier input.identifierType)
  let prepared ← Script.done (createStoredIdentifierData platform draw.lookupNonce.bytes
    input.identifierType input.identifierValue input.toIdentifierContext)
  let found ← query fun s => .ok ((findIdentifier s.db input.identifierType prepared).map fun i =>
    (i.partyId, s.db.parties.findUnique i.partyId))
  step library draw fun _ db =>
    db.insertAudit (lookupAudit draw actorUserId actorOrgId input prepared.lookupHmac found)
  return {
    party := found.bind (·.2)
    maskedIdentifier := maskIdentifier prepared.normalizedValue }

def sign (payload : ResolutionTokenPayload) : Call String :=
  atomic fun s => .ok (library.sign draw.now payload)
    { s with issued := ⟨library.sign draw.now payload, payload⟩ :: s.issued }

def resolveParty (user : AuthenticatedUser) (dto : IdentifierInput) :
    Call ResolvePartyResponse := do
  let orgId ← Script.done (assertOrgScope (some user))
  let resolved ← findPartyByIdentifierExact platform library draw user.sub orgId dto
  match resolved.party with
  | none => return { matchFound := false, party := none, resolutionToken := none }
  | some party =>
    let token ← sign library draw {
      sub := user.sub
      orgId
      partyId := party.id
      purpose := "owner-party-resolution" }
    return {
      matchFound := true
      party := some {
        partyType := party.type
        displayNameEn := party.displayNameEn
        displayNameAr := party.displayNameAr
        maskedIdentifier := resolved.maskedIdentifier }
      resolutionToken := some token }

def verify (token actorUserId orgId : String) : Call Id :=
  query fun s => Parties.verify (draw.env library s) token actorUserId orgId

def partyOfIdentifier (actorUserId orgId : Id) (party : PartyInput) (identifier : IdentifierInput) :
    Call Id := do
  let resolved ← findPartyByIdentifierExact platform library draw actorUserId orgId identifier
  match resolved.party with
  | some party => return party.id
  | none =>
    step library draw fun env db =>
      createParty env party db >>= createIdentifier platform env env.partyId identifier
    return draw.partyId

def partyOf (input : CreateOwnerInput) (party : PartyInput) : Call Id :=
  match truthy input.dto.resolutionToken with
  | some token => verify library draw token input.actorUserId input.orgId
  | none =>
    match input.dto.identifier with
    | some identifier =>
      partyOfIdentifier platform library draw input.actorUserId input.orgId party identifier
    | none => do
      step library draw fun env => createParty env party
      return draw.partyId

def saveOwner (orgId partyId : Id) (data : OwnerData) : Option Owner → Call Owner
  | some existing => do
    step library draw fun _ db => db.writeOwner (.update existing.id data.patch)
    return { existing with toOwnerData := data }
  | none => do
    let owner : Owner := { data with id := draw.ownerId, orgId, partyId := some partyId }
    step library draw fun _ db => db.insertOwner owner
    return owner

def createOrReuseOwner (input : CreateOwnerInput) : Call Owner := do
  let displayNameEn := displayNameOf input.dto
  Script.throwIf (displayNameEn = "") (.badRequest "Owner name is required")
  let primaryEmail ← Script.done (normalizedEmail platform input.dto.email)
  let primaryPhone := trimmed input.dto.phone
  let partyId ← partyOf platform library draw input {
    type := input.dto.partyType.getD .INDIVIDUAL
    displayNameEn
    displayNameAr := input.dto.displayNameAr
    primaryEmail
    primaryPhone }
  let existingOwner ← query fun s => .ok (s.db.owners.table.findFirst fun o =>
    o.orgId = input.orgId ∧ o.partyId = some partyId)
  let data ← Script.done (ownerData platform input.dto primaryEmail primaryPhone)
  saveOwner library draw input.orgId partyId data existingOwner

def findOwner (ownerId : Id) : Call Owner :=
  query fun s =>
    Outcome.orThrow (s.db.owners.table.findUnique ownerId) (.notFound "Owner not found")

def create (user : Option AuthenticatedUser) (dto : CreateOwnerDto) : Call Owner := do
  let orgId ← Script.done (assertOrgScope user)
  let created ← createOrReuseOwner platform library draw
    { actorUserId := (user.map (·.sub)).getD "", orgId, dto }
  findOwner created.id

/-- `email` is normalized unless it is empty. -/
def changedEmail (email : Field String) (current : Option String) : Option String :=
  match email with
  | .undefined => current
  | .null => none
  | .value text => (truthy (some text)).map fun text => platform.toLowerCase (trimString text)

def updatePatch (dto : UpdateOwnerDto) (name : Option String) (isActive : Option Bool) :
    Patch Owner.id where
  apply o := { o with
    name := name.getD o.name
    email := changedEmail platform dto.email o.email
    phone := nullableColumn dto.phone o.phone
    address := nullableColumn dto.address o.address
    isActive := isActive.getD o.isActive }
  key_apply _ := rfl

/-- What is set in a column that cannot be null. -/
def changed {α : Type} : Field α → Result (Option α)
  | .undefined => .ok none
  | .null => .error (.internal "Argument must not be null")
  | .value a => .ok (some a)

def updateOwner (ownerId : Id) (dto : UpdateOwnerDto) (db : Db) : Result Db := do
  let name ← changed dto.name
  let isActive ← changed dto.isActive
  db.writeOwner (.update ownerId (updatePatch platform dto name isActive))

def findOwnerOf (orgId ownerId : Id) : Call Owner := do
  let owner ← findOwner ownerId
  Script.throwIf (owner.orgId ≠ orgId) (.notFound "Owner not found")
  return owner

def update (user : Option AuthenticatedUser) (ownerId : Id) (dto : UpdateOwnerDto) :
    Call Owner := do
  let orgId ← Script.done (assertOrgScope user)
  let _ ← findOwnerOf orgId ownerId
  step library draw fun _ => updateOwner platform ownerId dto
  findOwnerOf orgId ownerId

end Services

inductive OwnerCall
  | resolveParty (user : AuthenticatedUser) (dto : IdentifierInput)
  | create (user : Option AuthenticatedUser) (dto : CreateOwnerDto)
  | update (user : Option AuthenticatedUser) (ownerId : Id) (dto : UpdateOwnerDto)

inductive Answer
  | resolved (response : ResolvePartyResponse)
  | owner (owner : Owner)

def OwnerCall.script (platform : Platform) (library : TokenLibrary) (draw : Draw) :
    OwnerCall → Call Answer
  | .resolveParty user dto => do
    return .resolved (← Resolution.resolveParty platform library draw user dto)
  | .create user dto => do return .owner (← Resolution.create platform library draw user dto)
  | .update user ownerId dto => do
    return .owner (← Resolution.update platform library draw user ownerId dto)

/-! ## A call on its own -/

section Alone

variable {platform : Platform} {library : TokenLibrary} {draw : Draw} {α β : Type}

/-- With no other call between its steps the script does what the service does in one go. -/
def Alone (library : TokenLibrary) (draw : Draw) (c : Call α) (w : Env → Service α) : Prop :=
  ∀ s, c.run s = onDb (w (draw.env library s)) s

theorem alone_bind {c : Call α} {f : α → Call β} {w : Env → Service α}
    {g : Env → α → Service β} (hc : Alone library draw c w)
    (hf : ∀ a, Alone library draw (f a) fun env => g env a) :
    Alone library draw (c >>= f) fun env => w env >>= g env := by
  intro s
  rw [Script.run_bind]
  simp only [bind, EStateM.bind, hc s, onDb]
  cases w (draw.env library s) s.db with
  | ok a db => exact hf a { s with db }
  | error e db => rfl

theorem alone_done {r : Result α} {f : Env → Result α} (h : ∀ s, r = f (draw.env library s)) :
    Alone library draw (.done r) fun env => Transaction.read fun _ => f env := by
  intro s
  simp only [onDb, Transaction.read, ← h s]
  cases r <;> rfl

theorem alone_query {g : Registry → Result α} {f : Env → Db → Result α}
    (h : ∀ s, g s = f (draw.env library s) s.db) :
    Alone library draw (query g) fun env => Transaction.read (f env) := by
  intro s
  simp only [Script.run_query, Transaction.read, onDb, h s]
  cases f (draw.env library s) s.db <;> rfl

theorem alone_step (w : Env → Db → Result Db) :
    Alone library draw (step library draw w) fun env => statement (w env) :=
  fun s => Script.run_atomic _ s

theorem alone_findPartyByIdentifierExact {actorUserId actorOrgId : Id} {input : IdentifierInput} :
    Alone library draw
      (findPartyByIdentifierExact platform library draw actorUserId actorOrgId input >>=
        fun resolved => pure resolved.party)
      fun env => Parties.findPartyByIdentifierExact platform env actorUserId actorOrgId input := by
  unfold findPartyByIdentifierExact
  simp only [Script.bind_bind]
  refine alone_bind (alone_done fun _ => rfl) fun _ => ?_
  refine alone_bind (alone_done fun _ => rfl) fun prepared => ?_
  refine alone_bind (alone_query fun _ => rfl) fun found => ?_
  exact alone_bind (alone_step _) fun _ _ => rfl

theorem alone_partyOfIdentifier {actorUserId orgId : Id} {party : PartyInput}
    {identifier : IdentifierInput} :
    Alone library draw
      (partyOfIdentifier platform library draw actorUserId orgId party identifier)
      fun env => Parties.partyOfIdentifier platform env actorUserId orgId party identifier := by
  have hassoc : partyOfIdentifier platform library draw actorUserId orgId party identifier =
      (findPartyByIdentifierExact platform library draw actorUserId orgId identifier >>=
        fun resolved => pure resolved.party) >>= fun found => match found with
          | some party => pure party.id
          | none => do
            step library draw fun env db =>
              createParty env party db >>= createIdentifier platform env env.partyId identifier
            return draw.partyId := by
    rw [Script.bind_bind]
    rfl
  rw [hassoc]
  refine alone_bind alone_findPartyByIdentifierExact fun found => ?_
  cases found with
  | some party => exact fun _ => rfl
  | none => exact alone_bind (alone_step _) fun _ _ => rfl

theorem alone_partyOf {input : CreateOwnerInput} {party : PartyInput} :
    Alone library draw (partyOf platform library draw input party)
      fun env => Parties.partyOf platform env input party := by
  unfold partyOf Parties.partyOf
  cases truthy input.dto.resolutionToken with
  | some token => exact alone_query fun _ => rfl
  | none =>
    cases input.dto.identifier with
    | some identifier => exact alone_partyOfIdentifier
    | none => exact alone_bind (alone_step _) fun _ _ => rfl

theorem alone_saveOwner {orgId partyId : Id} {data : OwnerData} {existing : Option Owner} :
    Alone library draw (saveOwner library draw orgId partyId data existing)
      fun env => Parties.saveOwner env orgId partyId data existing := by
  cases existing with
  | some existing => exact alone_bind (alone_step _) fun _ _ => rfl
  | none => exact alone_bind (alone_step _) fun _ _ => rfl

theorem alone_createOrReuseOwner (input : CreateOwnerInput) :
    Alone library draw (createOrReuseOwner platform library draw input)
      fun env => Parties.createOrReuseOwner platform env input := by
  refine alone_bind (alone_done fun _ => rfl) fun _ => ?_
  refine alone_bind (alone_done fun _ => rfl) fun primaryEmail => ?_
  refine alone_bind alone_partyOf fun partyId => ?_
  refine alone_bind (alone_query fun _ => rfl) fun existing => ?_
  exact alone_bind (alone_done fun _ => rfl) fun data => alone_saveOwner

end Alone

/-! ## Who has looked up what -/

/-- The user has looked the party up in the organisation, and found it. -/
def Audited (db : Db) (userId orgId partyId : Id) : Prop :=
  ∃ a ∈ db.audits, a.resultStatus = .MATCH_FOUND ∧ a.actorUserId = userId ∧
    a.actorOrgId = orgId ∧ a.matchedPartyId = some partyId

def OwnerCall.Creates (userId orgId : Id) : OwnerCall → Prop
  | .create user _ => assertOrgScope user = .ok orgId ∧ (user.map (·.sub)).getD "" = userId
  | _ => False

/-- The party is one that the call has registered itself, or its user has looked it up. -/
def Entitled (start db : Db) (draw : Draw) (userId orgId partyId : Id) : Prop :=
  (partyId = draw.partyId ∧ ∀ p ∈ start.parties, p.id ≠ partyId) ∨
    Audited db userId orgId partyId

/-- The owner is from the start, or a call has created it for a party it was entitled to. -/
def Accounted (start : Db) (calls : Set (Draw × OwnerCall)) (db : Db) (o : Owner) : Prop :=
  (∃ o₀ ∈ start.owners, o₀.id = o.id ∧ o₀.orgId = o.orgId ∧ o₀.partyId = o.partyId) ∨
    ∃ c ∈ calls, ∃ userId partyId, c.2.Creates userId o.orgId ∧ o.partyId = some partyId ∧
      Entitled start db c.1 userId o.orgId partyId

structure Sound (start : Db) (calls : Set (Draw × OwnerCall)) (s : Registry) : Prop where
  issued : ∀ i ∈ s.issued, Audited s.db i.payload.sub i.payload.orgId i.payload.partyId
  parties : ∀ p ∈ start.parties, p ∈ s.db.parties
  owners : ∀ o ∈ s.db.owners, Accounted start calls s.db o

/-- What an answer shows of a party. -/
def ResolvedPartySummary.Shows (summary : ResolvedPartySummary) (party : Party) : Prop :=
  summary.partyType = party.type ∧ summary.displayNameEn = party.displayNameEn ∧
    summary.displayNameAr = party.displayNameAr

/-- An answer that shows a party is one to a user who is in the audit for that party. -/
def Disclosed (call : OwnerCall) (answer : Answer) (db : Db) : Prop :=
  match call, answer with
  | .resolveParty user _, .resolved response => ∀ summary, response.party = some summary →
    ∃ orgId, assertOrgScope (some user) = .ok orgId ∧
      ∃ party ∈ db.parties, summary.Shows party ∧ Audited db user.sub orgId party.id
  | _, _ => True

/-- What every step of every call keeps. -/
structure Keeps (start : Db) (calls : Set (Draw × OwnerCall)) (s s' : Registry) : Prop where
  audits : ∀ a ∈ s.db.audits, a ∈ s'.db.audits
  parties : ∀ p ∈ s.db.parties, p ∈ s'.db.parties
  sound : Sound start calls s → Sound start calls s'

abbrev Upheld {α : Type} (start : Db) (calls : Set (Draw × OwnerCall)) (c : Call α)
    (Q : α → Registry → Prop) (s : Registry) : Prop :=
  c.Upholds (Keeps start calls) (fun s effect => Keeps start calls s (effect s)) Q s

section Keeping

variable {start db db' : Db} {calls : Set (Draw × OwnerCall)} {s s' s'' : Registry}
  {userId orgId partyId : Id} {draw : Draw} {o : Owner}

theorem Audited.mono (h : Audited db userId orgId partyId)
    (haudits : ∀ a ∈ db.audits, a ∈ db'.audits) : Audited db' userId orgId partyId :=
  h.imp fun a ⟨ha, hfound⟩ => ⟨haudits a ha, hfound⟩

theorem Entitled.mono (h : Entitled start db draw userId orgId partyId)
    (haudits : ∀ a ∈ db.audits, a ∈ db'.audits) : Entitled start db' draw userId orgId partyId :=
  h.imp id fun haudited => haudited.mono haudits

theorem Accounted.mono (h : Accounted start calls db o)
    (haudits : ∀ a ∈ db.audits, a ∈ db'.audits) : Accounted start calls db' o := by
  obtain hold | ⟨c, hc, userId, partyId, hcreates, hparty, hentitled⟩ := h
  · exact .inl hold
  · exact .inr ⟨c, hc, userId, partyId, hcreates, hparty, hentitled.mono haudits⟩

/-- What an owner is called and how it is reached play no part. -/
theorem Accounted.patched (h : Accounted start calls db o) {o' : Owner} (hid : o'.id = o.id)
    (horg : o'.orgId = o.orgId) (hparty : o'.partyId = o.partyId) :
    Accounted start calls db o' := by
  unfold Accounted
  rw [hid, horg, hparty]
  exact h

theorem Keeps.refl : Keeps start calls s s := ⟨fun _ ha => ha, fun _ hp => hp, id⟩

theorem Keeps.trans (h : Keeps start calls s s') (h' : Keeps start calls s' s'') :
    Keeps start calls s s'' :=
  ⟨fun a ha => h'.audits a (h.audits a ha), fun p hp => h'.parties p (h.parties p hp),
    fun hs => h'.sound (h.sound hs)⟩

theorem Disclosed.mono {call : OwnerCall} {answer : Answer} (h : Disclosed call answer s.db)
    (hkeeps : Keeps start calls s s') : Disclosed call answer s'.db := by
  cases call with
  | resolveParty user dto =>
    cases answer with
    | resolved response =>
      intro summary hsummary
      obtain ⟨orgId, horg, party, hparty, hshows, haudited⟩ := h summary hsummary
      exact ⟨orgId, horg, party, hkeeps.parties party hparty, hshows, haudited.mono hkeeps.audits⟩
    | owner owner => trivial
  | create user dto => trivial
  | update user ownerId dto => trivial

theorem keeps_tables (haudits : ∀ a ∈ s.db.audits, a ∈ db'.audits)
    (hparties : ∀ p ∈ s.db.parties, p ∈ db'.parties)
    (howners : Sound start calls s → ∀ o ∈ db'.owners, Accounted start calls db' o) :
    Keeps start calls s { s with db := db' } where
  audits := haudits
  parties := hparties
  sound hs := ⟨fun i hi => (hs.issued i hi).mono haudits,
    fun p hp => hparties p (hs.parties p hp), howners hs⟩

theorem keeps_insertAudit {audit : OwnerRegistryLookupAudit}
    (h : s.db.insertAudit audit = .ok db') :
    Keeps start calls s { s with db := db' } ∧ audit ∈ db'.audits := by
  simp only [Db.insertAudit, Outcome.bind_eq_ok, Outcome.pure_eq_ok, Outcome.orThrow_eq_ok] at h
  obtain ⟨_, -, audits, hinsert, rfl⟩ := h
  have hkept : ∀ a ∈ s.db.audits, a ∈ audits := fun a ha => (Table.mem_insert hinsert).mpr (.inl ha)
  refine ⟨keeps_tables hkept (fun p hp => hp) fun hs o ho => ?_,
    (Table.mem_insert hinsert).mpr (.inr rfl)⟩
  exact (hs.owners o ho).mono hkept

theorem keeps_createParty {env : Env} {input : PartyInput}
    (h : createParty env input s.db = .ok db') :
    Keeps start calls s { s with db := db' } ∧ ∀ p ∈ s.db.parties, p.id ≠ env.partyId := by
  simp only [createParty, Db.insertParty, Outcome.bind_eq_ok, Outcome.pure_eq_ok,
    Outcome.orThrow_eq_ok] at h
  obtain ⟨parties, hinsert, rfl⟩ := h
  refine ⟨keeps_tables (fun a ha => ha) (fun p hp => (Table.mem_insert hinsert).mpr (.inl hp))
    fun hs => hs.owners, fun p hp => Table.fresh_of_insert hinsert hp⟩

theorem keeps_createIdentifier {platform : Platform} {env : Env} {input : IdentifierInput}
    (h : createIdentifier platform env partyId input s.db = .ok db') :
    Keeps start calls s { s with db := db' } := by
  simp only [createIdentifier, Db.insertIdentifier, Outcome.bind_eq_ok, Outcome.pure_eq_ok] at h
  obtain ⟨_, -, _, -, _, -, rfl⟩ := h
  exact keeps_tables (fun a ha => ha) (fun p hp => hp) fun hs => hs.owners

theorem keeps_patchOwner {ownerId : Id} {patch : Patch Owner.id}
    (hpatch : ∀ o, (patch.apply o).orgId = o.orgId ∧ (patch.apply o).partyId = o.partyId)
    (h : s.db.writeOwner (.update ownerId patch) = .ok db') :
    Keeps start calls s { s with db := db' } := by
  simp only [Db.writeOwner, Outcome.bind_eq_ok, Outcome.pure_eq_ok, Outcome.mapError_eq_ok] at h
  obtain ⟨owners, hwrite, rfl⟩ := h
  obtain ⟨-, htable⟩ := Table.apply_update.mp (Constrained.write_eq_ok.mp hwrite)
  refine keeps_tables (fun a ha => ha) (fun p hp => hp) fun hs o ho => ?_
  rw [Constrained.mem_table, htable] at ho
  rcases Table.mem_modify.mp ho with ⟨a, ha, -, rfl⟩ | ⟨ho, -⟩
  · exact (hs.owners a ha).patched (patch.key_apply a) (hpatch a).1 (hpatch a).2
  · exact hs.owners o ho

theorem keeps_insertOwner (hcreated : Sound start calls s → Accounted start calls s.db o)
    (h : s.db.insertOwner o = .ok db') : Keeps start calls s { s with db := db' } := by
  simp only [Db.insertOwner, Db.writeOwner, Outcome.bind_eq_ok, Outcome.pure_eq_ok,
    Outcome.mapError_eq_ok] at h
  obtain ⟨_, -, owners, hwrite, rfl⟩ := h
  have hinsert := Table.apply_create.mp (Constrained.write_eq_ok.mp hwrite)
  refine keeps_tables (fun a ha => ha) (fun p hp => hp) fun hs o' ho' => ?_
  rcases (Table.mem_insert hinsert).mp ho' with ho' | rfl
  · exact hs.owners o' ho'
  · exact hcreated hs

end Keeping

section Upholding

variable {platform : Platform} {library : TokenLibrary} {draw : Draw} {start db : Db}
  {calls : Set (Draw × OwnerCall)} {s : Registry} {userId orgId partyId : Id} {α : Type}
  {Q : α → Registry → Prop}

theorem onDb_statement_ok {w : Db → Result Db} {db' : Db} (hok : w s.db = .ok db') :
    onDb (statement w) s = .ok () { s with db := db' } := by
  simp only [onDb, statement, hok]

theorem onDb_statement_error {w : Db → Result Db} {e : HttpException}
    (herror : w s.db = .error e) : onDb (statement w) s = .error e s := by
  simp only [onDb, statement, herror]

/-- A statement that takes effect; one that fails changes nothing. -/
theorem upheld_step_bind {w : Env → Db → Result Db} {f : Unit → Call α}
    (hw : ∀ s' db', Keeps start calls s s' → w (draw.env library s') s'.db = .ok db' →
      Keeps start calls s' { s' with db := db' })
    (hf : ∀ s' db', Keeps start calls s s' → w (draw.env library s') s'.db = .ok db' →
      Upheld start calls (f ()) Q { s' with db := db' }) :
    Upheld start calls (step library draw w >>= f) Q s := by
  refine Script.upholds_atomic_bind (fun s' hs' => ?_) fun s' s'' u hs' hrun => ?_
  · change Keeps start calls s' (final (onDb (statement (w (draw.env library s'))) s'))
    cases hresult : w (draw.env library s') s'.db with
    | ok db' =>
      rw [onDb_statement_ok hresult]
      exact hw s' db' hs' hresult
    | error e =>
      rw [onDb_statement_error hresult]
      exact .refl
  · cases hresult : w (draw.env library s') s'.db with
    | ok db' =>
      rw [onDb_statement_ok hresult] at hrun
      cases hrun
      exact hf s' db' hs' hresult
    | error e =>
      rw [onDb_statement_error hresult] at hrun
      cases hrun

theorem upheld_findPartyByIdentifierExact {input : IdentifierInput} (hs : Sound start calls s) :
    Upheld start calls
      (findPartyByIdentifierExact platform library draw userId orgId input)
      (fun resolved s => Sound start calls s ∧
        ∀ party, resolved.party = some party →
          party ∈ s.db.parties ∧ Audited s.db userId orgId party.id) s := by
  refine Script.upholds_done_bind fun _ _ => ?_
  refine Script.upholds_done_bind fun prepared _ => ?_
  refine Script.upholds_query_bind (fun _ => .refl) fun s₁ found hs₁ hfound => ?_
  refine upheld_step_bind (fun s₂ db' _ hok => (keeps_insertAudit hok).1) fun s₂ db' hs₂ hok => ?_
  obtain ⟨hkeeps, hmem⟩ : Keeps start calls s₂ { s₂ with db := db' } ∧ _ := keeps_insertAudit hok
  refine ⟨hkeeps.sound (hs₂.sound (hs₁.sound hs)), fun party hparty => ?_⟩
  obtain ⟨⟨partyId, row⟩, hf, hrow⟩ := Option.bind_eq_some_iff.mp hparty
  -- the row that was joined in is the one the identifier refers to
  obtain ⟨i, -, hi⟩ := Option.map_eq_some_iff.mp ((Except.ok.inj hfound).trans hf)
  obtain ⟨rfl, rfl⟩ := Prod.mk.inj hi
  obtain ⟨hthere, hid⟩ := Table.findUnique_eq_some.mp hrow
  refine ⟨hkeeps.parties party (hs₂.parties party hthere), _, hmem, ?_, rfl, rfl, ?_⟩
  · simp [lookupAudit, hf]
  · simp [lookupAudit, hf, hid]

theorem upheld_resolveParty {user : AuthenticatedUser} {dto : IdentifierInput}
    (hs : Sound start calls s) :
    Upheld start calls (resolveParty platform library draw user dto)
      (fun response s => Disclosed (.resolveParty user dto) (.resolved response) s.db) s := by
  refine Script.upholds_done_bind fun orgId horg => ?_
  refine Script.upholds_bind (upheld_findPartyByIdentifierExact hs) fun resolved s₁ hs₁ => ?_
  cases hfound : resolved.party with
  | none => exact fun summary hsummary => nomatch hsummary
  | some party =>
    obtain ⟨hparty, haudited⟩ := hs₁.2 party hfound
    refine Script.upholds_atomic_bind
      (fun s₂ hs₂ => ⟨fun a ha => ha, fun p hp => hp, fun hsound => ?_⟩)
      fun s₂ s₃ token hs₂ hsigned => ?_
    · refine ⟨fun i hi => ?_, hsound.parties, hsound.owners⟩
      rcases List.mem_cons.mp hi with rfl | hi
      · exact haudited.mono hs₂.audits
      · exact hsound.issued i hi
    · cases hsigned
      intro summary hsummary
      obtain rfl := Option.some.inj hsummary
      exact ⟨orgId, horg, party, hs₂.parties party hparty, ⟨rfl, rfl, rfl⟩,
        haudited.mono hs₂.audits⟩

theorem upheld_verify {token : String} (hs : Sound start calls s) :
    Upheld start calls (verify library draw token userId orgId)
      (fun partyId s => Sound start calls s ∧ Entitled start s.db draw userId orgId partyId) s := by
  intro s₁ hs₁
  refine ⟨.refl, Script.upholds_done fun partyId hverify => ⟨hs₁.sound hs, .inr ?_⟩⟩
  simp only [Parties.verify, Outcome.bind_eq_ok, Outcome.orThrow_eq_ok, Outcome.throwIf_eq_ok,
    Outcome.pure_eq_ok, not_or, not_not] at hverify
  obtain ⟨payload, haccepts, _, ⟨-, hsub, horg⟩, rfl⟩ := hverify
  have hissued := (hs₁.sound hs).issued _ (library.issued_of_verify haccepts)
  rwa [hsub, horg] at hissued

/-- Whoever registers a party itself is entitled to it. -/
theorem upheld_registers {w : Env → Db → Result Db}
    (hw : ∀ {s' db'}, w (draw.env library s') s'.db = .ok db' →
      Keeps start calls s' { s' with db := db' } ∧ ∀ p ∈ s'.db.parties, p.id ≠ draw.partyId)
    (hs : Sound start calls s) :
    Upheld start calls (step library draw w >>= fun _ => return draw.partyId)
      (fun partyId s => Sound start calls s ∧ Entitled start s.db draw userId orgId partyId) s := by
  refine upheld_step_bind (fun s₁ db' _ hok => (hw hok).1) fun s₁ db' hs₁ hok => ?_
  obtain ⟨hkeeps, hfresh⟩ := hw hok
  have hsound := hs₁.sound hs
  exact ⟨hkeeps.sound hsound, .inl ⟨rfl, fun p hp => hfresh p (hsound.parties p hp)⟩⟩

theorem upheld_partyOfIdentifier {party : PartyInput} {identifier : IdentifierInput}
    (hs : Sound start calls s) :
    Upheld start calls
      (partyOfIdentifier platform library draw userId orgId party identifier)
      (fun partyId s => Sound start calls s ∧ Entitled start s.db draw userId orgId partyId) s := by
  refine Script.upholds_bind (upheld_findPartyByIdentifierExact hs) fun resolved s₁ hs₁ => ?_
  cases hparty : resolved.party with
  | some party => exact ⟨hs₁.1, .inr (hs₁.2 party hparty).2⟩
  | none =>
    refine upheld_registers (fun {s₂ db'} hok => ?_) hs₁.1
    obtain ⟨db₁, hcreated, hidentified⟩ := Outcome.bind_eq_ok.mp hok
    obtain ⟨hkeeps, hfresh⟩ : Keeps start calls s₂ { s₂ with db := db₁ } ∧ _ :=
      keeps_createParty hcreated
    exact ⟨hkeeps.trans (keeps_createIdentifier (s := { s₂ with db := db₁ }) hidentified), hfresh⟩

theorem upheld_partyOf {input : CreateOwnerInput} {party : PartyInput} (hs : Sound start calls s) :
    Upheld start calls (partyOf platform library draw input party)
      (fun partyId s => Sound start calls s ∧
        Entitled start s.db draw input.actorUserId input.orgId partyId) s := by
  unfold partyOf
  split
  · exact upheld_verify hs
  · split
    · exact upheld_partyOfIdentifier hs
    · exact upheld_registers keeps_createParty hs

theorem upheld_saveOwner {c : Draw × OwnerCall} {data : OwnerData} {existing : Option Owner}
    (hc : c ∈ calls) (hcreates : c.2.Creates userId orgId)
    (hentitled : Entitled start s.db c.1 userId orgId partyId) :
    Upheld start calls (saveOwner library c.1 orgId partyId data existing) (fun _ _ => True) s := by
  cases existing with
  | some existing =>
    exact upheld_step_bind (fun _ _ _ hok => keeps_patchOwner (fun _ => ⟨rfl, rfl⟩) hok)
      fun _ _ _ _ => trivial
  | none =>
    refine upheld_step_bind (fun s₁ db' hs₁ hok => keeps_insertOwner (fun _ => ?_) hok)
      fun _ _ _ _ => trivial
    exact .inr ⟨c, hc, userId, partyId, hcreates, rfl, hentitled.mono hs₁.audits⟩

theorem upheld_createOrReuseOwner {c : Draw × OwnerCall} {input : CreateOwnerInput} (hc : c ∈ calls)
    (hcreates : c.2.Creates input.actorUserId input.orgId) (hs : Sound start calls s) :
    Upheld start calls (createOrReuseOwner platform library c.1 input) (fun _ _ => True) s := by
  refine Script.upholds_throwIf_bind fun _ => ?_
  refine Script.upholds_done_bind fun primaryEmail _ => ?_
  refine Script.upholds_bind (upheld_partyOf hs) fun partyId s₁ hs₁ => ?_
  refine Script.upholds_query_bind (fun _ => .refl) fun s₂ existing hs₂ _ => ?_
  refine Script.upholds_done_bind fun data _ => ?_
  exact upheld_saveOwner hc hcreates (hs₁.2.mono hs₂.audits)

theorem upheld_findOwner {ownerId : Id} :
    Upheld start calls (findOwner ownerId) (fun _ _ => True) s :=
  fun _ _ => ⟨.refl, Script.upholds_done fun _ _ => trivial⟩

theorem upheld_findOwnerOf {ownerId : Id} :
    Upheld start calls (findOwnerOf orgId ownerId) (fun _ _ => True) s := by
  refine Script.upholds_bind upheld_findOwner fun owner _ _ => ?_
  exact Script.upholds_throwIf_bind fun _ => trivial

theorem upheld_update {user : Option AuthenticatedUser} {ownerId : Id} {dto : UpdateOwnerDto} :
    Upheld start calls (update platform library draw user ownerId dto) (fun _ _ => True) s := by
  refine Script.upholds_done_bind fun orgId _ => ?_
  refine Script.upholds_bind upheld_findOwnerOf fun _ s₁ _ => ?_
  refine upheld_step_bind (fun s₂ db' _ hok => ?_) fun _ _ _ _ => upheld_findOwnerOf
  simp only [updateOwner, Outcome.bind_eq_ok] at hok
  obtain ⟨name, -, isActive, -, hok⟩ := hok
  exact keeps_patchOwner (fun _ => ⟨rfl, rfl⟩) hok

theorem upheld_script {c : Draw × OwnerCall} (hc : c ∈ calls) (hs : Sound start calls s) :
    Upheld start calls (c.2.script platform library c.1)
      (fun answer s => Disclosed c.2 answer s.db) s := by
  cases hcall : c.2 with
  | resolveParty user dto =>
    exact Script.upholds_bind (upheld_resolveParty hs) fun response s₁ h => h
  | create user dto =>
    refine Script.upholds_bind (Q := fun _ _ => True) ?_ fun _ _ _ => trivial
    refine Script.upholds_done_bind fun orgId horg => ?_
    have hcreates : c.2.Creates ((user.map (·.sub)).getD "") orgId := by
      rw [hcall]
      exact ⟨horg, rfl⟩
    exact Script.upholds_bind (upheld_createOrReuseOwner hc hcreates hs) fun _ _ _ =>
      upheld_findOwner
  | update user ownerId dto =>
    exact Script.upholds_bind upheld_update fun _ _ _ => trivial

end Upholding

abbrev after {π : Type} [DecidableEq π] (platform : Platform) (library : TokenLibrary)
    (start : Db) (calls : π → Draw × OwnerCall) (turns : List (π × Unit)) :
    Interleaving.Config π (Call Answer) Registry :=
  Script.inTurns (fun p => (calls p).2.script platform library (calls p).1) ⟨start, []⟩ turns

end Towerdesk.Parties.Resolution
