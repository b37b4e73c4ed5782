import Towerdesk.Lib.Run
import Towerdesk.Parties.Provisioning

/-!
# Identifiers and parties, one to one

Along a run of calls from a state without identifiers, the parties that identifiers decide and
the normalized identifiers correspond one to one. What is stored for them can be read back, and
is not empty, exactly when no identifier was made of separators alone.
-/

namespace Towerdesk.Parties

open Transaction (Ends ends_bind ends_pure ends_read ends_read_bind)

/-- An accepted call that an identifier decided, with the party of its owner. -/
structure Accepted where
  input : IdentifierInput
  partyId : Option Id
deriving DecidableEq

/-- A token takes the place of an identifier. -/
def decidedBy (dto : CreateOwnerDto) : Option IdentifierInput :=
  if (truthy dto.resolutionToken).isSome then none else dto.identifier

abbrev State := Db × List Accepted

def call (platform : Platform) (c : Env × CreateOwnerInput) (s : State) : State :=
  match createOrReuseOwner platform c.1 c.2 s.1 with
  | .error _ db => (db, s.2)
  | .ok owner db => (db, s.2 ++ (decidedBy c.2.dto).toList.map fun input => ⟨input, owner.partyId⟩)

def withoutIdentifiers (db : Db) : Db :=
  { db with identifiers := ⟨.empty _, if_pos (Table.UniqueOn.empty rfl)⟩ }

abbrev runFrom (platform : Platform) (db : Db) (calls : List (Env × CreateOwnerInput)) : State :=
  Run.exec (call platform) (withoutIdentifiers db, []) calls

section Statement

variable (platform : Platform)

def normalized (input : IdentifierInput) : Result String :=
  normalizeIdentifier platform input.identifierType input.identifierValue

/-- What identifies a party. -/
def keyOf (input : IdentifierInput) : PartyIdentifierType × Result String × IdentifierContext :=
  (input.identifierType, normalized platform input,
    normalizeContext platform input.toIdentifierContext)

structure Exact (s : State) : Prop where
  resolved : ∀ a ∈ s.2, ∀ b ∈ s.2,
    a.partyId = b.partyId ↔ keyOf platform a.input = keyOf platform b.input
  nonempty : ∀ a ∈ s.2, ∃ value, normalized platform a.input = .ok value ∧ value ≠ ""
  stored : ∀ a ∈ s.2, ∃ i ∈ s.1.identifiers, a.partyId = some i.partyId
  readable : ∀ a ∈ s.2, ∀ i ∈ s.1.identifiers, a.partyId = some i.partyId →
    decryptValue platform i.valueEncrypted = normalized platform a.input

end Statement

section Rows

variable {platform : Platform} {db db' : Db}

/-- The row that stands for an identifier with this normalized value. -/
structure IsFor (platform : Platform) (i : PartyIdentifier) (input : IdentifierInput)
    (value : String) : Prop where
  type : i.identifierType = input.identifierType
  context : i.toIdentifierContext = normalizeContext platform input.toIdentifierContext
  hmac : i.lookupHmac =
    platform.hmac (payload i.identifierType i.toIdentifierContext value)

structure Sound (platform : Platform) (db : Db) : Prop where
  live : ∀ i ∈ db.identifiers, i.deletedAt = none
  owned : ∀ i ∈ db.identifiers, ∃ p ∈ db.parties, p.id = i.partyId
  single : ∀ i ∈ db.identifiers, ∀ j ∈ db.identifiers, i.partyId = j.partyId → i = j
  stored : ∀ i ∈ db.identifiers, ∃ value, ∃ nonce : Nonce,
    i.lookupHmac = platform.hmac (payload i.identifierType i.toIdentifierContext value) ∧
      i.valueEncrypted = encryptValue platform nonce.bytes value

/-- The party stands for the identifier. -/
def Settled (platform : Platform) (db : Db) (input : IdentifierInput) (partyId : Option Id) :
    Prop :=
  input.identifierType ≠ .OTHER ∧ ∃ value, normalized platform input = .ok value ∧
    ∃ i ∈ db.identifiers, IsFor platform i input value ∧ partyId = some i.partyId

/-- Sound, with all the identifiers that were there. -/
structure Kept (platform : Platform) (db db' : Db) : Prop where
  sound : Sound platform db'
  grows : ∀ i ∈ db.identifiers, i ∈ db'.identifiers

theorem Settled.grow {input : IdentifierInput} {partyId : Option Id}
    (h : Settled platform db input partyId) (hgrows : ∀ i ∈ db.identifiers, i ∈ db'.identifiers) :
    Settled platform db' input partyId := by
  obtain ⟨hstrong, value, hvalue, i, hi, hfor, hparty⟩ := h
  exact ⟨hstrong, value, hvalue, i, hgrows i hi, hfor, hparty⟩

theorem sound_withoutIdentifiers : Sound platform (withoutIdentifiers db) where
  live := fun _ hi => by cases hi
  owned := fun _ hi => by cases hi
  single := fun _ hi => by cases hi
  stored := fun _ hi => by cases hi

theorem IsFor.eq {i j : PartyIdentifier} {input : IdentifierInput} {value : String}
    (hsound : Sound platform db) (hi : i ∈ db.identifiers) (hj : j ∈ db.identifiers)
    (hfori : IsFor platform i input value) (hforj : IsFor platform j input value) : i = j := by
  have hunique : db.identifiers.table.UniqueOn liveLookup := by
    have hvalid := db.identifiers.valid
    unfold identifierCheck at hvalid
    split at hvalid
    · assumption
    · cases hvalid
  have hentry : ∀ k ∈ db.identifiers, liveLookup k = some (k.identifierType,
      k.countryCode.getD "", k.issuingAuthority.getD "", k.lookupHmac) :=
    fun k hk => if_pos (hsound.live k hk)
  refine hunique.eq hi hj (hentry i hi) ?_
  rw [hentry j hj, hfori.hmac, hforj.hmac, hfori.type, hforj.type, hfori.context, hforj.context]

theorem IsFor.value_eq {i : PartyIdentifier} {input : IdentifierInput} {v w : String}
    (hv : IsFor platform i input v)
    (hw : i.lookupHmac = platform.hmac (payload i.identifierType i.toIdentifierContext w)) :
    v = w :=
  payload_injective (platform.hmac_injective (hv.hmac.symm.trans hw))

theorem settled_eq_iff {a b : IdentifierInput} {p q : Option Id} (hsound : Sound platform db)
    (ha : Settled platform db a p) (hb : Settled platform db b q) :
    p = q ↔ keyOf platform a = keyOf platform b := by
  obtain ⟨-, v, hv, i, hi, hfora, rfl⟩ := ha
  obtain ⟨-, w, hw, j, hj, hforb, rfl⟩ := hb
  constructor
  · intro hparty
    obtain rfl := hsound.single i hi j hj (Option.some.inj hparty)
    obtain rfl := hfora.value_eq hforb.hmac
    rw [keyOf, keyOf, hv, hw, ← hfora.type, ← hforb.type, ← hfora.context, ← hforb.context]
  · intro hkey
    simp only [keyOf, hv, hw, Prod.mk.injEq, Except.ok.injEq] at hkey
    obtain ⟨htype, rfl, hcontext⟩ := hkey
    have hforj : IsFor platform j a v :=
      ⟨hforb.type.trans htype.symm, hforb.context.trans hcontext.symm, hforb.hmac⟩
    rw [hfora.eq hsound hi hj hforj]

end Rows

section Calls

variable {platform : Platform} {env : Env} {db db' : Db}

/-- Statements that write other tables, and parties that are added. -/
structure Apart (db db' : Db) : Prop where
  identifiers : db'.identifiers = db.identifiers
  parties : ∀ p ∈ db.parties, p ∈ db'.parties

theorem Apart.kept (h : Apart db db') (hsound : Sound platform db) : Kept platform db db' := by
  refine ⟨⟨?_, ?_, ?_, ?_⟩, ?_⟩
  · rw [h.identifiers]
    exact hsound.live
  · rw [h.identifiers]
    intro i hi
    obtain ⟨p, hp, hpi⟩ := hsound.owned i hi
    exact ⟨p, h.parties p hp, hpi⟩
  · rw [h.identifiers]
    exact hsound.single
  · rw [h.identifiers]
    exact hsound.stored
  · rw [h.identifiers]
    exact fun _ hi => hi

theorem Kept.refl (hsound : Sound platform db) : Kept platform db db := ⟨hsound, fun _ hi => hi⟩

theorem ends_statement {throws : Db → Prop} {returns : Unit → Db → Prop} {w : Db → Result Db}
    (hthrows : throws db) (h : ∀ db', w db = .ok db' → returns () db') :
    Ends throws returns (statement w db) := by
  unfold statement
  cases hw : w db with
  | error e => exact hthrows
  | ok db' => exact h db' hw

theorem Apart.refl : Apart db db := ⟨rfl, fun _ hp => hp⟩

theorem ends_apart_statement {w : Db → Result Db} (h : ∀ db', w db = .ok db' → Apart db db') :
    Ends (Apart db) (fun _ => Apart db) (statement w db) :=
  ends_statement .refl h

theorem apart_insertAudit {audit : OwnerRegistryLookupAudit} (h : db.insertAudit audit = .ok db') :
    Apart db db' := by
  simp only [Db.insertAudit, Outcome.bind_eq_ok, Outcome.pure_eq_ok] at h
  obtain ⟨_, -, _, -, rfl⟩ := h
  exact ⟨rfl, fun _ hp => hp⟩

theorem apart_writeOwner {w : Table.Write Owner.id} (h : db.writeOwner w = .ok db') :
    Apart db db' := by
  simp only [Db.writeOwner, Outcome.bind_eq_ok, Outcome.pure_eq_ok] at h
  obtain ⟨_, -, rfl⟩ := h
  exact ⟨rfl, fun _ hp => hp⟩

theorem apart_insertOwner {owner : Owner} (h : db.insertOwner owner = .ok db') : Apart db db' := by
  simp only [Db.insertOwner, Outcome.bind_eq_ok] at h
  obtain ⟨_, -, h⟩ := h
  exact apart_writeOwner h

theorem insertParty_ok {party : Party} (h : db.insertParty party = .ok db') :
    Apart db db' ∧ party ∈ db'.parties ∧ ∀ p ∈ db.parties, p.id ≠ party.id := by
  simp only [Db.insertParty, Outcome.bind_eq_ok, Outcome.pure_eq_ok, Outcome.orThrow_eq_ok] at h
  obtain ⟨parties, hinsert, rfl⟩ := h
  refine ⟨⟨rfl, fun p hp => ?_⟩, ?_, fun p hp => Table.fresh_of_insert hinsert hp⟩
  · exact (Table.mem_insert hinsert).mpr (.inl hp)
  · exact (Table.mem_insert hinsert).mpr (.inr rfl)

theorem insertIdentifier_ok {identifier : PartyIdentifier}
    (h : db.insertIdentifier identifier = .ok db') :
    db'.parties = db.parties ∧ ∀ i, i ∈ db'.identifiers ↔ i ∈ db.identifiers ∨ i = identifier := by
  simp only [Db.insertIdentifier, Outcome.bind_eq_ok, Outcome.pure_eq_ok,
    Outcome.mapError_eq_ok] at h
  obtain ⟨_, -, identifiers, hwrite, rfl⟩ := h
  have hinsert := Table.apply_create.mp (Constrained.write_eq_ok.mp hwrite)
  exact ⟨rfl, fun i => Table.mem_insert hinsert⟩

theorem createStoredIdentifierData_ok {nonce : Nonce} {input : IdentifierInput}
    {prepared : StoredIdentifierData}
    (h : createStoredIdentifierData platform nonce.bytes input.identifierType
      input.identifierValue input.toIdentifierContext = .ok prepared) :
    ∃ value, normalized platform input = .ok value ∧
      prepared.toIdentifierContext = normalizeContext platform input.toIdentifierContext ∧
        prepared.lookupHmac =
          platform.hmac (payload input.identifierType prepared.toIdentifierContext value) ∧
        prepared.valueEncrypted = encryptValue platform nonce.bytes value := by
  simp only [createStoredIdentifierData, Outcome.bind_eq_ok, Outcome.pure_eq_ok] at h
  obtain ⟨value, hvalue, rfl⟩ := h
  exact ⟨value, hvalue, rfl, rfl, rfl⟩

theorem createParty_createIdentifier {party : PartyInput} {input : IdentifierInput}
    (hsound : Sound platform db) (hstrong : input.identifierType ≠ .OTHER)
    (h : (createParty env party db >>= createIdentifier platform env env.partyId input) = .ok db') :
    Kept platform db db' ∧ Settled platform db' input (some env.partyId) := by
  obtain ⟨db₁, hparty, h⟩ := Outcome.bind_eq_ok.mp h
  obtain ⟨prepared, hprepared, h⟩ := Outcome.bind_eq_ok.mp h
  obtain ⟨value, hvalue, hcontext, hhmac, hencrypted⟩ := createStoredIdentifierData_ok hprepared
  obtain ⟨hapart, hnew, hfresh⟩ := insertParty_ok hparty
  obtain ⟨hparties, hmem⟩ := insertIdentifier_ok h
  obtain ⟨⟨hlive, howned, hsingle, hstored⟩, -⟩ := hapart.kept hsound
  have hunclaimed : ∀ i ∈ db₁.identifiers, i.partyId ≠ env.partyId := by
    intro i hi hclaims
    rw [hapart.identifiers] at hi
    obtain ⟨p, hp, hpi⟩ := hsound.owned i hi
    exact hfresh p hp (hpi.trans hclaims)
  refine ⟨⟨⟨?_, ?_, ?_, ?_⟩, ?_⟩, hstrong, value, hvalue, _, (hmem _).mpr (.inr rfl),
    ⟨rfl, hcontext, hhmac⟩, rfl⟩
  · intro i hi
    obtain hi | rfl := (hmem i).mp hi
    · exact hlive i hi
    · rfl
  · intro i hi
    rw [hparties]
    obtain hi | rfl := (hmem i).mp hi
    · exact howned i hi
    · exact ⟨_, hnew, rfl⟩
  · intro i hi j hj hij
    obtain hi | rfl := (hmem i).mp hi
    · obtain hj | rfl := (hmem j).mp hj
      · exact hsingle i hi j hj hij
      · exact absurd hij (hunclaimed i hi)
    · obtain hj | rfl := (hmem j).mp hj
      · exact absurd hij.symm (hunclaimed j hj)
      · rfl
  · intro i hi
    obtain hi | rfl := (hmem i).mp hi
    · exact hstored i hi
    · exact ⟨value, env.storedNonce, hhmac, hencrypted⟩
  · intro i hi
    exact (hmem i).mpr (.inl (hapart.identifiers ▸ hi))

theorem findIdentifier_isFor {input : IdentifierInput} {prepared : StoredIdentifierData}
    {i : PartyIdentifier} {value : String}
    (hfound : findIdentifier db input.identifierType prepared = some i)
    (hcontext : prepared.toIdentifierContext = normalizeContext platform input.toIdentifierContext)
    (hhmac : prepared.lookupHmac =
      platform.hmac (payload input.identifierType prepared.toIdentifierContext value)) :
    i ∈ db.identifiers ∧ IsFor platform i input value := by
  obtain ⟨hi, hwhere⟩ := Table.findFirst_some hfound
  obtain ⟨htype, hicontext, hihmac, -⟩ := of_decide_eq_true hwhere
  refine ⟨hi, htype, hicontext.trans hcontext, ?_⟩
  rw [hihmac, hhmac, htype, hicontext]

theorem ends_findPartyByIdentifierExact {actorUserId actorOrgId : Id} {input : IdentifierInput} :
    Ends (Apart db) (fun party db' => Apart db db' ∧ input.identifierType ≠ .OTHER ∧
        ∀ p, party = some p → Settled platform db' input (some p.id))
      (findPartyByIdentifierExact platform env actorUserId actorOrgId input db) := by
  refine ends_read_bind .refl fun _ hstrong => ends_read_bind .refl fun prepared hprepared => ?_
  refine ends_read_bind .refl fun found hfound => ?_
  have hstrong : input.identifierType ≠ .OTHER := Outcome.throwIf_eq_ok.mp hstrong
  obtain ⟨value, hvalue, hcontext, hhmac, -⟩ := createStoredIdentifierData_ok hprepared
  refine ends_bind (ends_apart_statement fun db' haudit => apart_insertAudit haudit)
    fun _ db' hapart => ends_pure ⟨hapart, hstrong, fun p hp => ?_⟩
  obtain rfl := Except.ok.inj hfound
  obtain ⟨⟨partyId, party⟩, hmap, rfl⟩ := Option.bind_eq_some_iff.mp hp
  obtain ⟨i, hi, hpair⟩ := Option.map_eq_some_iff.mp hmap
  obtain ⟨rfl, hparty⟩ := Prod.mk.inj hpair
  obtain ⟨hmem, hfor⟩ := findIdentifier_isFor hi hcontext hhmac
  refine ⟨hstrong, value, hvalue, i, hapart.identifiers ▸ hmem, hfor, ?_⟩
  rw [(Table.findUnique_eq_some.mp hparty).2]

theorem ends_partyOfIdentifier {actorUserId orgId : Id} {party : PartyInput}
    {input : IdentifierInput} (hsound : Sound platform db) :
    Ends (Kept platform db)
      (fun partyId db' => Kept platform db db' ∧ Settled platform db' input (some partyId))
      (partyOfIdentifier platform env actorUserId orgId party input db) := by
  refine ends_bind (ends_findPartyByIdentifierExact.imp (fun _ h => h.kept hsound)
    fun _ _ h => h) ?_
  rintro (_ | p) db₁ ⟨hapart, hstrong, hsettled⟩
  · obtain ⟨hsound₁, hgrows⟩ := hapart.kept hsound
    have hcreate : Ends (Kept platform db) (fun _ db' => Kept platform db db' ∧
        Settled platform db' input (some env.partyId))
        (statement (fun db => createParty env party db >>=
          createIdentifier platform env env.partyId input) db₁) := by
      refine ends_statement ⟨hsound₁, hgrows⟩ fun db' h => ?_
      obtain ⟨hkept, hsettled⟩ := createParty_createIdentifier hsound₁ hstrong h
      exact ⟨⟨hkept.sound, fun i hi => hkept.grows i (hgrows i hi)⟩, hsettled⟩
    exact ends_bind hcreate fun _ _ h => ends_pure h
  · exact ends_pure ⟨hapart.kept hsound, hsettled p rfl⟩

theorem ends_partyOf {input : CreateOwnerInput} {party : PartyInput}
    (hsound : Sound platform db) :
    Ends (Kept platform db) (fun partyId db' => Kept platform db db' ∧
        ∀ identifier, decidedBy input.dto = some identifier →
          Settled platform db' identifier (some partyId))
      (partyOf platform env input party db) := by
  unfold partyOf decidedBy
  cases htoken : truthy input.dto.resolutionToken with
  | some token => exact ends_read (.refl hsound) fun _ _ => ⟨.refl hsound, fun _ h => by cases h⟩
  | none =>
    cases hidentifier : input.dto.identifier with
    | some identifier =>
      refine (ends_partyOfIdentifier hsound).imp (fun _ h => h) fun partyId db' h => ⟨h.1, ?_⟩
      rintro _ ⟨⟩
      exact h.2
    | none =>
      have hcreate : Ends (Kept platform db) (fun _ => Kept platform db)
          (statement (createParty env party) db) :=
        ends_statement (.refl hsound) fun db' h => (insertParty_ok h).1.kept hsound
      exact ends_bind hcreate fun _ _ h => ends_pure ⟨h, fun _ h => by cases h⟩

theorem ends_saveOwner {orgId partyId : Id} {data : OwnerData} {existing : Option Owner}
    (hexisting : ∀ o, existing = some o → o.partyId = some partyId) :
    Ends (Apart db) (fun owner db' => Apart db db' ∧ owner.partyId = some partyId)
      (saveOwner env orgId partyId data existing db) := by
  cases existing with
  | some o =>
    exact ends_bind (ends_apart_statement fun _ h => apart_writeOwner h)
      fun _ _ h => ends_pure ⟨h, hexisting o rfl⟩
  | none =>
    exact ends_bind (ends_apart_statement fun _ h => apart_insertOwner h)
      fun _ _ h => ends_pure ⟨h, rfl⟩

theorem ends_createOrReuseOwner {input : CreateOwnerInput} (hsound : Sound platform db) :
    Ends (Kept platform db) (fun owner db' => Kept platform db db' ∧
        ∀ identifier, decidedBy input.dto = some identifier →
          Settled platform db' identifier owner.partyId)
      (createOrReuseOwner platform env input db) := by
  have hrefl : Kept platform db db := .refl hsound
  refine ends_read_bind hrefl fun _ _ => ends_read_bind hrefl fun primaryEmail _ => ?_
  refine ends_bind (ends_partyOf hsound) fun partyId db₁ ⟨hkept, hsettled⟩ => ?_
  refine ends_read_bind hkept fun existing hfound => ends_read_bind hkept fun data _ => ?_
  have hexisting : ∀ o, existing = some o → o.partyId = some partyId := by
    rintro o rfl
    obtain ⟨-, hwhere⟩ := Table.findFirst_some (Except.ok.inj hfound)
    exact (of_decide_eq_true hwhere).2
  have hlater : ∀ db', Apart db₁ db' → Kept platform db db' ∧
      ∀ i ∈ db₁.identifiers, i ∈ db'.identifiers := fun db' hapart =>
    have h := hapart.kept hkept.sound
    ⟨⟨h.sound, fun i hi => h.grows i (hkept.grows i hi)⟩, h.grows⟩
  refine (ends_saveOwner hexisting).imp (fun db' h => (hlater db' h).1) fun owner db' h => ?_
  refine ⟨(hlater db' h.1).1, fun identifier hdecided => ?_⟩
  rw [h.2]
  exact (hsettled identifier hdecided).grow (hlater db' h.1).2

end Calls

section Runs

variable {platform : Platform} {db : Db} {s : State}

structure Consistent (platform : Platform) (s : State) : Prop where
  sound : Sound platform s.1
  settled : ∀ a ∈ s.2, Settled platform s.1 a.input a.partyId

theorem consistent_call {c : Env × CreateOwnerInput} (h : Consistent platform s) :
    Consistent platform (call platform c s) := by
  have hends := @ends_createOrReuseOwner platform c.1 s.1 c.2 h.sound
  unfold call
  cases hresult : createOrReuseOwner platform c.1 c.2 s.1 with
  | error e db' =>
    rw [hresult] at hends
    exact ⟨hends.sound, fun a ha => (h.settled a ha).grow hends.grows⟩
  | ok owner db' =>
    rw [hresult] at hends
    obtain ⟨hkept, hsettled⟩ := hends
    refine ⟨hkept.sound, fun a ha => ?_⟩
    obtain ha | ha := List.mem_append.mp ha
    · exact (h.settled a ha).grow hkept.grows
    · obtain ⟨input, hinput, rfl⟩ := List.mem_map.mp ha
      exact hsettled input (Option.mem_toList.mp hinput)

theorem consistent_run (calls : List (Env × CreateOwnerInput)) :
    Consistent platform (runFrom platform db calls) :=
  Run.exec_inv (fun _ _ => consistent_call) calls ⟨sound_withoutIdentifiers, fun _ ha => by cases ha⟩

/-- What is stored for an accepted identifier is its normalized value, encrypted. -/
theorem Consistent.stored_value (h : Consistent platform s) {a : Accepted} (ha : a ∈ s.2)
    {i : PartyIdentifier} (hi : i ∈ s.1.identifiers) (hparty : a.partyId = some i.partyId)
    {value : String} (hvalue : normalized platform a.input = .ok value) :
    ∃ nonce : Nonce, i.valueEncrypted = encryptValue platform nonce.bytes value := by
  obtain ⟨-, v, hv, j, hj, hfor, hpartyj⟩ := h.settled a ha
  obtain rfl := Except.ok.inj (hv.symm.trans hvalue)
  obtain rfl := h.sound.single j hj i hi (Option.some.inj (hpartyj.symm.trans hparty))
  obtain ⟨w, nonce, hhmac, hencrypted⟩ := h.sound.stored j hj
  obtain rfl := hfor.value_eq hhmac
  exact ⟨nonce, hencrypted⟩

theorem Nonce.ne_nil (nonce : Nonce) : nonce.bytes ≠ [] := by
  intro hnil
  have hlength := nonce.length
  rw [hnil] at hlength
  cases hlength

theorem Consistent.exact (h : Consistent platform s)
    (hsubstance : ∀ a ∈ s.2, HasSubstance a.input.identifierType a.input.identifierValue) :
    Exact platform s where
  resolved := fun a ha b hb => settled_eq_iff h.sound (h.settled a ha) (h.settled b hb)
  nonempty := fun a ha => by
    obtain ⟨hstrong, value, hvalue, -⟩ := h.settled a ha
    exact ⟨value, hvalue, (normalized_ne_empty_iff hstrong hvalue).mpr (hsubstance a ha)⟩
  stored := fun a ha => by
    obtain ⟨-, value, hvalue, i, hi, -, hparty⟩ := h.settled a ha
    exact ⟨i, hi, hparty⟩
  readable := fun a ha i hi hparty => by
    obtain ⟨hstrong, value, hvalue, -⟩ := h.settled a ha
    obtain ⟨nonce, hencrypted⟩ := h.stored_value ha hi hparty hvalue
    rw [hencrypted, hvalue, decryptValue_encryptValue_iff nonce.ne_nil,
      normalized_ne_empty_iff hstrong hvalue]
    exact hsubstance a ha

theorem Consistent.hasSubstance (h : Consistent platform s) (hexact : Exact platform s)
    {a : Accepted} (ha : a ∈ s.2) :
    HasSubstance a.input.identifierType a.input.identifierValue := by
  obtain ⟨hstrong, -⟩ := h.settled a ha
  obtain ⟨value, hvalue, hne⟩ := hexact.nonempty a ha
  exact (normalized_ne_empty_iff hstrong hvalue).mp hne

end Runs

section Dash

/-- A platform for texts without case, with the hash and the cipher left open. -/
def plainPlatform : Platform where
  hmac := id
  hmac_injective := Function.injective_id
  cipher := {
    tag := fun _ _ => [0]
    encrypt := fun _ plain => plain
    decrypt := fun _ _ encrypted => some encrypted
    tag_ne_nil := fun _ _ => List.cons_ne_nil _ _
    length_encrypt := fun _ _ => rfl
    decrypt_encrypt := fun _ _ => rfl }
  replaceMalformed := fun _ => ""
  toLowerCase := id
  upperCase := fun c => [c]
  upperCase_separator := fun _ _ => rfl
  upperCase_solid := fun _ hc => ⟨List.cons_ne_nil _ _, fun _ hd => List.mem_singleton.mp hd ▸ hc⟩

def zeros : Nonce := ⟨List.replicate 12 0, rfl⟩

def plainEnv : Env := ⟨"party", "identifier", "audit", "owner", zeros, zeros, fun _ => none⟩

/-- An organisation with its clerk. -/
def registry : Db where
  orgIds := ["org"]
  users := ⟨[⟨"clerk", "clerk@example.com", none, none, some "org", true⟩], by decide⟩
  parties := .empty _
  identifiers := ⟨.empty _, if_pos (Table.UniqueOn.empty rfl)⟩
  audits := .empty _
  owners := ⟨.empty _, if_pos (Table.UniqueOn.empty rfl)⟩

def ownerWith (identifier : IdentifierInput) : CreateOwnerDto where
  name := "Jane Owner"
  partyType := none
  displayNameEn := none
  displayNameAr := none
  email := .undefined
  phone := none
  address := none
  resolutionToken := none
  identifier := some identifier
  ownerOverrides := none

def dash : IdentifierInput := ⟨⟨none, none⟩, .EMIRATES_ID, "-"⟩

/-- A dash passes for an identifier, and what is stored for it cannot be read back. -/
theorem dash_accepted_as_identifier :
    ¬ ∀ (platform : Platform) (db : Db) (calls : List (Env × CreateOwnerInput)),
      Exact platform (runFrom platform db calls) := by
  intro h
  have hexact := h plainPlatform registry [(plainEnv, ⟨"clerk", "org", ownerWith dash⟩)]
  obtain ⟨value, hvalue, hne⟩ := hexact.nonempty ⟨dash, some "party"⟩ (by decide)
  have hempty : normalized plainPlatform dash = .ok "" := by decide
  exact hne (Except.ok.inj (hvalue.symm.trans hempty))

end Dash

theorem party_resolution_exact_iff (platform : Platform) (db : Db)
    (calls : List (Env × CreateOwnerInput)) :
    Exact platform (runFrom platform db calls) ↔
      ∀ a ∈ (runFrom platform db calls).2,
        HasSubstance a.input.identifierType a.input.identifierValue :=
  ⟨fun h _ ha => (consistent_run calls).hasSubstance h ha, (consistent_run calls).exact⟩

end Towerdesk.Parties
