import SchoolOs.Chains
import SchoolOs.Persons
import SchoolOs.Runs

/-!
Merged persons: where following the merges leads, and which merges keep it from leading round in
a circle.
-/

namespace SchoolOs

open Runs Chains

/-- Whom a person was merged into. -/
def SchoolDB.mergedInto (db : SchoolDB) (personId : Ulid) : Option Ulid :=
  (db.persons.get personId).bind Person.mergedIntoPersonId

def SchoolDB.withoutPersons (db : SchoolDB) : SchoolDB := { db with persons := .empty _ }

/-- **Merges resolve**: following them from any person comes to one who is not merged, and exactly
the merged ones point at another. -/
structure MergesResolve (db : SchoolDB) : Prop where
  resolves : ∀ p ∈ db.persons, ∃ q ∈ db.persons,
    Leads db.mergedInto p.id q.id ∧ q.status ≠ .merged
  marked : ∀ p ∈ db.persons, p.mergedIntoPersonId.isSome ↔ p.status = .merged

/-! ### What a request does -/

/-- A row with the identity of another one, its status and what it is merged into. -/
structure SameMerge (old new : Person) : Prop where
  id : new.id = old.id
  status : new.status = old.status
  pointer : new.mergedIntoPersonId = old.mergedIntoPersonId

/-- The persons after a request that goes through. -/
inductive PersonEffect (db : SchoolDB) : PersonOp → Table Person.id → Prop
  | create {data : PersonCreate} {id : Ulid} {p : Person} {persons : Table Person.id}
      (insert : db.persons.insert p = some persons) (status : p.status = .active)
      (pointer : p.mergedIntoPersonId = none) : PersonEffect db (.create data id) persons
  | update {personId : Ulid} {data : PersonUpdate} {old new : Person} (mem : old ∈ db.persons)
      (same : SameMerge old new) : PersonEffect db (.update personId data) (db.persons.put new)
  | delete {personId : Ulid} {version : ℕ} {old new : Person} (mem : old ∈ db.persons)
      (same : SameMerge old new) : PersonEffect db (.delete personId version) (db.persons.put new)
  | merge {personId : Ulid} {data : PersonMerge} {old new : Person} (mem : old ∈ db.persons)
      (owned : old.id = personId) (target : (db.persons.get data.targetPersonId).isSome)
      (id : new.id = old.id) (status : new.status = .merged)
      (pointer : new.mergedIntoPersonId = some data.targetPersonId) :
      PersonEffect db (.merge personId data) (db.persons.put new)

section Effects

variable {env : SchoolEnv} {clk : Clock} {ctx : RequestContext} {db db' : SchoolDB}
  {personId : Ulid}

lemma getPerson_some {organizationId : Option Ulid} {p : Person}
    (h : getPerson db organizationId personId = some p) : p ∈ db.persons ∧ p.id = personId :=
  Table.get_eq_some.mp (Option.filter_eq_some_iff.mp h).1

lemma personOwned_ok {p : Person} (h : Persons.getOwned ctx db personId = .ok p) :
    p ∈ db.persons ∧ p.id = personId := by
  obtain ⟨_, _, h⟩ := bind_ok.mp h
  exact getPerson_some (found_ok.mp h)

lemma personSave_ok {old new : Person} (h : Persons.save db old new = .ok db') :
    db' = { db with persons := db.persons.put (flushed Person.touch old new) } := by
  obtain ⟨_, _, h⟩ := bind_ok.mp h
  exact (pure_ok.mp h).symm

lemma sameMerge_flushed {old new : Person} (h : SameMerge old new) :
    SameMerge old (flushed Person.touch old new) where
  id := (flushed_col Person.touch Person.id (fun _ => rfl) old new).trans h.id
  status := (flushed_col Person.touch Person.status (fun _ => rfl) old new).trans h.status
  pointer := (flushed_col Person.touch Person.mergedIntoPersonId (fun _ => rfl) old new).trans
    h.pointer

lemma personCreate_ok {data : PersonCreate} {id : Ulid} {p : Person}
    (h : Persons.create env ctx db data id = .ok (p, db')) :
    PersonEffect db (.create data id) db'.persons := by
  obtain ⟨organizationId, _, h⟩ := bind_ok.mp h
  obtain ⟨_, _, h⟩ := bind_ok.mp h
  obtain ⟨db1, hinsert, h⟩ := bind_ok.mp h
  obtain ⟨db2, haudit, h⟩ := bind_ok.mp h
  obtain ⟨_, rfl⟩ := Prod.mk.inj (pure_ok.mp h)
  obtain ⟨_, rfl⟩ := schoolAudit_ok.mp haudit
  obtain ⟨_, _, hinsert⟩ := bind_ok.mp hinsert
  obtain ⟨persons, hrow, hinsert⟩ := bind_ok.mp hinsert
  obtain ⟨_, _, hinsert⟩ := bind_ok.mp hinsert
  obtain rfl := pure_ok.mp hinsert
  exact .create (found_ok.mp hrow) rfl rfl

lemma personUpdate_ok {data : PersonUpdate} {old p : Person} (hmem : old ∈ db.persons)
    (h : Persons.update env ctx db old data = .ok (p, db')) :
    PersonEffect db (.update old.id data) db'.persons := by
  obtain ⟨_, _, h⟩ := bind_ok.mp h
  obtain ⟨_, _, h⟩ := bind_ok.mp h
  obtain ⟨db1, hsave, h⟩ := bind_ok.mp h
  obtain ⟨db2, haudit, h⟩ := bind_ok.mp h
  obtain ⟨_, rfl⟩ := Prod.mk.inj (pure_ok.mp h)
  obtain ⟨_, rfl⟩ := schoolAudit_ok.mp haudit
  obtain rfl := personSave_ok hsave
  exact .update hmem (sameMerge_flushed ⟨rfl, rfl, rfl⟩)

lemma personDelete_ok {version : ℕ} {old : Person} (hmem : old ∈ db.persons)
    (h : Persons.delete env clk ctx db old version = .ok db') :
    PersonEffect db (.delete old.id version) db'.persons := by
  obtain ⟨_, _, h⟩ := bind_ok.mp h
  obtain ⟨db1, hsave, h⟩ := bind_ok.mp h
  obtain ⟨_, rfl⟩ := schoolAudit_ok.mp h
  obtain rfl := personSave_ok hsave
  exact .delete hmem (sameMerge_flushed ⟨rfl, rfl, rfl⟩)

lemma personMerge_ok {data : PersonMerge} {old p : Person} (hmem : old ∈ db.persons)
    (h : Persons.merge env ctx db old data = .ok (p, db')) :
    PersonEffect db (.merge old.id data) db'.persons := by
  obtain ⟨_, _, h⟩ := bind_ok.mp h
  obtain ⟨_, _, h⟩ := bind_ok.mp h
  obtain ⟨target, htarget, h⟩ := bind_ok.mp h
  obtain ⟨db1, hsave, h⟩ := bind_ok.mp h
  obtain ⟨db2, haudit, h⟩ := bind_ok.mp h
  obtain ⟨_, rfl⟩ := Prod.mk.inj (pure_ok.mp h)
  obtain ⟨_, rfl⟩ := schoolAudit_ok.mp haudit
  obtain rfl := personSave_ok hsave
  obtain ⟨htmem, htid⟩ := getPerson_some (found_ok.mp htarget)
  have hknown : (db.persons.get data.targetPersonId).isSome :=
    Option.isSome_iff_exists.mpr ⟨target, Table.get_eq_some.mpr ⟨htmem, htid⟩⟩
  have hcol := fun {γ : Type} (col : Person → γ) (hc : ∀ r : Person, col r.touch = col r) =>
    flushed_col Person.touch col hc old (Persons.merged ctx old target.id)
  exact .merge hmem rfl hknown (hcol Person.id fun _ => rfl) (hcol Person.status fun _ => rfl)
    ((hcol Person.mergedIntoPersonId fun _ => rfl).trans (congrArg some htid))

/-- **What a person request that goes through does**: one of the four effects. -/
theorem personHandle_ok {c : PersonCall} (h : c.handle env db = .ok db') :
    PersonEffect db c.op db'.persons := by
  obtain ⟨ctx, clk, op⟩ := c
  cases op with
  | create data id =>
    obtain ⟨⟨p, _⟩, hcreate, rfl⟩ := map_ok.mp h
    exact personCreate_ok hcreate
  | update personId data =>
    obtain ⟨old, howned, h⟩ := bind_ok.mp h
    obtain ⟨⟨p, _⟩, hupdate, rfl⟩ := map_ok.mp h
    obtain ⟨hmem, rfl⟩ := personOwned_ok howned
    exact personUpdate_ok hmem hupdate
  | delete personId version =>
    obtain ⟨old, howned, h⟩ := bind_ok.mp h
    obtain ⟨hmem, rfl⟩ := personOwned_ok howned
    exact personDelete_ok hmem h
  | merge personId data =>
    obtain ⟨old, howned, h⟩ := bind_ok.mp h
    obtain ⟨⟨p, _⟩, hmerge, rfl⟩ := map_ok.mp h
    obtain ⟨hmem, rfl⟩ := personOwned_ok howned
    exact personMerge_ok hmem hmerge

end Effects

/-! ### The merges that are recorded -/

/-- What holds however persons are merged: exactly the merged ones point at another, who exists. -/
structure MergesRecorded (db : SchoolDB) : Prop where
  marked : ∀ p ∈ db.persons, p.mergedIntoPersonId.isSome ↔ p.status = .merged
  known : ∀ p ∈ db.persons, ∀ q ∈ p.mergedIntoPersonId, (db.persons.get q).isSome

section Recorded

variable {env : SchoolEnv} {db db' : SchoolDB}

lemma mergedInto_of_mem {p : Person} (h : p ∈ db.persons) :
    db.mergedInto p.id = p.mergedIntoPersonId := by
  unfold SchoolDB.mergedInto
  rw [Table.get_eq_some.mpr ⟨h, rfl⟩, Option.bind_some]

lemma leads_known (hrec : MergesRecorded db) {a b : Ulid} (ha : (db.persons.get a).isSome)
    (h : Leads db.mergedInto a b) : (db.persons.get b).isSome := by
  induction h with
  | refl => exact ha
  | @tail x y _ hxy ih =>
    obtain ⟨p, hp⟩ := Option.isSome_iff_exists.mp ih
    obtain ⟨hmem, rfl⟩ := Table.get_eq_some.mp hp
    rw [mergedInto_of_mem hmem] at hxy
    exact hrec.known p hmem y hxy

/-- **Merges resolve exactly when all chains of them end.** -/
lemma resolve_iff (hrec : MergesRecorded db) :
    MergesResolve db ↔ ∀ a, Ends db.mergedInto a := by
  constructor
  · intro hres a
    cases ha : db.persons.get a with
    | none => exact .root (by rw [SchoolDB.mergedInto, ha, Option.bind_none])
    | some p =>
      obtain ⟨hmem, rfl⟩ := Table.get_eq_some.mp ha
      obtain ⟨q, hq, hleads, hstatus⟩ := hres.resolves p hmem
      have hnone : q.mergedIntoPersonId = none := by
        rw [← Option.not_isSome_iff_eq_none, hrec.marked q hq]
        exact hstatus
      exact ⟨q.id, hleads, (mergedInto_of_mem hq).trans hnone⟩
  · intro hends
    refine ⟨fun p hp => ?_, hrec.marked⟩
    obtain ⟨b, hleads, hb⟩ := hends p.id
    have hsome : (db.persons.get p.id).isSome :=
      Option.isSome_iff_exists.mpr ⟨p, Table.get_eq_some.mpr ⟨hp, rfl⟩⟩
    obtain ⟨q, hq⟩ := Option.isSome_iff_exists.mp (leads_known hrec hsome hleads)
    obtain ⟨hmem, rfl⟩ := Table.get_eq_some.mp hq
    rw [mergedInto_of_mem hmem] at hb
    refine ⟨q, hmem, hleads, ?_⟩
    rw [Ne, ← hrec.marked q hmem, hb]
    exact Bool.false_ne_true

lemma mergedInto_insert {p : Person} (h : db.persons.insert p = some db'.persons)
    (hp : p.mergedIntoPersonId = none) : db'.mergedInto = db.mergedInto := by
  funext k
  unfold SchoolDB.mergedInto
  rw [Table.get_insert h]
  split
  · next hk =>
    have hfresh : db.persons.get k = none :=
      Table.get_eq_none.mpr (hk ▸ (Table.insert_eq_some.mp h).1)
    rw [hfresh, Option.bind_none, Option.bind_some, hp]
  · rfl

lemma mergedInto_put {old new : Person} (hold : old ∈ db.persons) (hid : new.id = old.id)
    (h : db'.persons = db.persons.put new) :
    db'.mergedInto = Function.update db.mergedInto old.id new.mergedIntoPersonId := by
  funext k
  unfold SchoolDB.mergedInto
  rw [h, Table.get_put, hid]
  by_cases hk : k = old.id
  · subst hk
    rw [if_pos rfl, Function.update_self, Table.get_eq_some.mpr ⟨hold, rfl⟩]
    rfl
  · rw [if_neg hk, Function.update_of_ne hk]

lemma recorded_insert {p : Person} (h : db.persons.insert p = some db'.persons)
    (hstatus : p.status = .active) (hp : p.mergedIntoPersonId = none) (hrec : MergesRecorded db) :
    MergesRecorded db' := by
  constructor
  · intro q hq
    rcases (Table.mem_of_insert h).mp hq with hq | rfl
    · exact hrec.marked q hq
    · simp [hstatus, hp]
  · intro q hq t ht
    rcases (Table.mem_of_insert h).mp hq with hq | rfl
    · obtain ⟨row, hrow⟩ := Option.isSome_iff_exists.mp (hrec.known q hq t ht)
      rw [Table.get_insert_of_get h hrow]
      rfl
    · rw [hp] at ht
      cases ht

lemma recorded_put {new : Person} (hmarked : new.mergedIntoPersonId.isSome ↔ new.status = .merged)
    (hknown : ∀ q ∈ new.mergedIntoPersonId, (db.persons.get q).isSome)
    (h : db'.persons = db.persons.put new) (hrec : MergesRecorded db) : MergesRecorded db' := by
  have hstays : ∀ k, (db.persons.get k).isSome → (db'.persons.get k).isSome := by
    intro k hk
    rw [h, Table.get_put]
    split
    · rwa [Option.isSome_map]
    · exact hk
  constructor
  · intro q hq
    rcases Table.mem_put.mp (h ▸ hq) with ⟨hq, _⟩ | ⟨rfl, _⟩
    · exact hrec.marked q hq
    · exact hmarked
  · intro q hq t ht
    rcases Table.mem_put.mp (h ▸ hq) with ⟨hq, _⟩ | ⟨rfl, _⟩
    · exact hstays t (hrec.known q hq t ht)
    · exact hstays t (hknown t ht)

lemma recorded_same {old new : Person} (hold : old ∈ db.persons) (hsame : SameMerge old new)
    (h : db'.persons = db.persons.put new) (hrec : MergesRecorded db) : MergesRecorded db' := by
  refine recorded_put ?_ ?_ h hrec
  · rw [hsame.pointer, hsame.status]
    exact hrec.marked old hold
  · rw [hsame.pointer]
    exact hrec.known old hold

lemma mergedInto_same {old new : Person} (hold : old ∈ db.persons) (hsame : SameMerge old new)
    (h : db'.persons = db.persons.put new) : db'.mergedInto = db.mergedInto := by
  rw [mergedInto_put hold hsame.id h, hsame.pointer, ← mergedInto_of_mem hold,
    Function.update_eq_self]

lemma withoutPersons_recorded : MergesRecorded db.withoutPersons where
  marked := fun _ hp => absurd hp Table.not_mem_empty
  known := fun _ hp => absurd hp Table.not_mem_empty

lemma recorded_step (env : SchoolEnv) (db : SchoolDB) (c : PersonCall)
    (hrec : MergesRecorded db) : MergesRecorded (c.step env db) := by
  unfold PersonCall.step
  split
  · next db' hok =>
    have heffect := personHandle_ok hok
    generalize hop : c.op = op at heffect
    generalize hpersons : db'.persons = persons at heffect
    cases heffect with
    | create insert status pointer =>
      exact recorded_insert (hpersons ▸ insert) status pointer hrec
    | update mem same => exact recorded_same mem same hpersons hrec
    | delete mem same => exact recorded_same mem same hpersons hrec
    | merge mem owned target id status pointer =>
      refine recorded_put ?_ ?_ hpersons hrec
      · simp [pointer, status]
      · intro q hq
        rw [pointer, Option.mem_some_iff] at hq
        exact hq ▸ target
  · exact hrec

end Recorded

/-! ### Runs -/

/-- The request is refused. -/
def PersonRefused (env : SchoolEnv) (db : SchoolDB) (c : PersonCall) : Prop :=
  ∀ db', c.handle env db ≠ .ok db'

/-- Following earlier merges from the target of a merge does not lead to the person merged. -/
def MergesAway (db : SchoolDB) (c : PersonCall) : Prop :=
  ∀ personId data, c.op = .merge personId data →
    ¬ Leads db.mergedInto data.targetPersonId personId

/-- **One request**: merges resolve afterwards exactly when it is refused or merges away. -/
lemma personStep_iff (env : SchoolEnv) (db : SchoolDB) (c : PersonCall) (hrec : MergesRecorded db)
    (hres : MergesResolve db) :
    MergesResolve (c.step env db) ↔ PersonRefused env db c ∨ MergesAway db c := by
  have hends := (resolve_iff hrec).mp hres
  rw [resolve_iff (recorded_step env db c hrec)]
  unfold PersonCall.step
  split
  · next db' hok =>
    have hnot : ¬ PersonRefused env db c := fun href => href db' hok
    rw [or_iff_right hnot]
    have heffect := personHandle_ok hok
    unfold MergesAway
    generalize hop : c.op = op at heffect
    generalize hpersons : db'.persons = persons at heffect
    cases heffect with
    | create insert status pointer =>
      rw [mergedInto_insert (hpersons ▸ insert) pointer]
      exact iff_of_true hends nofun
    | update mem same =>
      rw [mergedInto_same mem same hpersons]
      exact iff_of_true hends nofun
    | delete mem same =>
      rw [mergedInto_same mem same hpersons]
      exact iff_of_true hends nofun
    | merge mem owned target id status pointer =>
      -- The pointer of the person is redirected.
      rw [mergedInto_put mem id hpersons, pointer, ends_update hends, owned]
      constructor
      · rintro haway _ _ ⟨⟩
        exact haway
      · exact fun haway => haway _ _ rfl
  · next e herr =>
    refine iff_of_true hends (.inl fun db' hok => ?_)
    rw [herr] at hok
    cases hok

/-- **Merges resolve in every state of a run exactly when every merge that goes through merges
away.** -/
theorem merges_resolve_iff (env : SchoolEnv) (db : SchoolDB) (l : List PersonCall) :
    Along (PersonCall.step env) (fun d c => MergesResolve (c.step env d)) db.withoutPersons l ↔
      Along (PersonCall.step env) (fun d c => PersonRefused env d c ∨ MergesAway d c)
        db.withoutPersons l := by
  have hres : MergesResolve db.withoutPersons :=
    ⟨fun _ hp => absurd hp Table.not_mem_empty, fun _ hp => absurd hp Table.not_mem_empty⟩
  exact along_iff_of (recorded_step env) (personStep_iff env) l withoutPersons_recorded hres

/-- A new person of whom no more than the first name is known. -/
def firstNamed (firstName : String) (h : 1 ≤ firstName.length ∧ firstName.length ≤ 100) :
    PersonCreate :=
  { PersonTexts.none with
    firstName := firstName
    dateOfBirth := none
    addressId := none
    customFields := []
    firstName_length := h }

/-- Two persons are merged, the first into the second and the other into `target`. -/
def mergeTwo (target : Ulid) : List PersonCall :=
  [⟨staff, ⟨0, 0⟩, .create (firstNamed "Ann" (by decide)) 61⟩,
    ⟨staff, ⟨0, 0⟩, .create (firstNamed "Ben" (by decide)) 62⟩,
    ⟨staff, ⟨0, 0⟩, .create (firstNamed "Cem" (by decide)) 63⟩,
    ⟨staff, ⟨0, 0⟩, .merge 61 ⟨62, 1, one_le_first⟩⟩,
    ⟨staff, ⟨0, 0⟩, .merge 62 ⟨target, 1, one_le_first⟩⟩]

/-- The state that merging the two leads to. -/
def mergedTwo (target : Ulid) : SchoolDB :=
  run (PersonCall.step .plain) smallSchool.withoutPersons (mergeTwo target)

example : (mergedTwo 63).mergedInto 61 = some 62 ∧ (mergedTwo 63).mergedInto 62 = some 63 := by
  decide

/-- Merged into each other, two persons lead to nobody. -/
theorem mergeTwo_circle : ¬ ∀ (env : SchoolEnv) (db : SchoolDB) (l : List PersonCall),
    Along (PersonCall.step env) (fun d c => MergesResolve (c.step env d)) db.withoutPersons l := by
  intro h
  obtain ⟨_, _, _, _, hlast, _⟩ := h .plain smallSchool (mergeTwo 61)
  have hres : MergesResolve (mergedTwo 61) := hlast
  have hfirst : (mergedTwo 61).mergedInto 61 = some 62 := by decide
  have hsecond : (mergedTwo 61).mergedInto 62 = some 61 := by decide
  have hrec : MergesRecorded (mergedTwo 61) :=
    invariant_all (recorded_step .plain) withoutPersons_recorded (mergeTwo 61)
  have hclosed : ∀ x, x = 61 ∨ x = 62 →
      ∃ y, (mergedTwo 61).mergedInto x = some y ∧ (y = 61 ∨ y = 62) := by
    rintro x (rfl | rfl)
    · exact ⟨62, hfirst, .inr rfl⟩
    · exact ⟨61, hsecond, .inl rfl⟩
  exact not_ends_of_closed hclosed (.inl rfl) ((resolve_iff hrec).mp hres 61)

end SchoolOs
