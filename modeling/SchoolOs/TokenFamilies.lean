import SchoolOs.AuthEffects
import SchoolOs.Runs

/-!
Session families: chains of refresh tokens, each the successor of the one rotated before it.
What ends a family, and what a logout leaves of it.
-/

namespace SchoolOs

variable {env : Env} {clk : Clock} {db : DB} {F : Ulid} {T : Instant}

/-! ### What one request does to the tokens -/

/-- The same token, with every mark it had and perhaps one more. -/
structure Marked (t t' : RefreshToken) : Prop where
  same : t' = { t with rotatedAt := t'.rotatedAt, revokedAt := t'.revokedAt }
  rotated : t.rotatedAt ≠ none → t'.rotatedAt ≠ none
  revoked : t.revokedAt ≠ none → t'.revokedAt ≠ none

lemma Marked.refl (t : RefreshToken) : Marked t t := ⟨rfl, id, id⟩

lemma marked_revoke (clk : Clock) (t : RefreshToken) : Marked t (t.revoke clk) :=
  ⟨rfl, id, fun _ => Option.some_ne_none _⟩

lemma marked_rotate (clk : Clock) (t : RefreshToken) : Marked t (t.rotate clk) :=
  ⟨rfl, fun _ => Option.some_ne_none _, id⟩

lemma marked_setWhere {f : RefreshToken → RefreshToken} (hf : ∀ t, Marked t (f t))
    (p : RefreshToken → Bool) (t : RefreshToken) : Marked t (if p t then f t else t) := by
  split
  · exact hf t
  · exact .refl t

lemma Marked.family {t t' : RefreshToken} (h : Marked t t') :
    t'.sessionFamilyId = t.sessionFamilyId := by
  rw [h.same]

lemma Marked.expires {t t' : RefreshToken} (h : Marked t t') : t'.expiresAt = t.expiresAt := by
  rw [h.same]

lemma Marked.live {t t' : RefreshToken} (h : Marked t t') (hl : t'.Live) : t.Live := by
  refine ⟨?_, ?_⟩
  · by_contra hr
    exact h.rotated hr hl.1
  · by_contra hr
    exact h.revoked hr hl.2

/-- A token the request adds: of the family a login draws, or of that of a live token which has
not expired. -/
def Issued (db : DB) (call : AuthCall) (n : RefreshToken) : Prop :=
  (∃ data draw, call.op = .login data n.sessionFamilyId draw) ∨
    ∃ t ∈ db.refreshTokens, t.Live ∧ call.clk.now < t.expiresAt ∧
      t.sessionFamilyId = n.sessionFamilyId

/-- **Tokens are never dropped**: after a request each row is there with its marks, and what is
added is issued. -/
theorem tokens_step {call : AuthCall} {db' : DB} {r : Fallible (Option TokenPair)}
    (h : AuthEffect env db call db' r) : ∃ mark new,
      db'.refreshTokens = db.refreshTokens.map mark ++ new ∧ (∀ t, Marked t (mark t)) ∧
        ∀ n ∈ new, Issued db call n := by
  cases h with
  | idle _ ht _ | counted _ _ _ ht _ => exact ⟨id, [], by simp [ht], .refl, by simp⟩
  | loggedIn hop _ _ ht =>
    refine ⟨id, _, by rw [ht, List.map_id], .refl, fun n hn => ?_⟩
    obtain rfl := List.mem_singleton.mp hn
    exact .inl ⟨_, _, hop⟩
  | revokedFamily _ _ _ ht _ | expired _ _ _ _ _ ht _ | loggedOut _ _ _ ht _
  | passwordSet _ _ _ _ ht _ =>
    exact ⟨_, [], by rw [ht, List.append_nil]; rfl, marked_setWhere (marked_revoke call.clk) _,
      by simp⟩
  | rotated _ hfind hlive hexp _ ht =>
    refine ⟨_, _, ht, marked_setWhere (marked_rotate call.clk) _, fun n hn => ?_⟩
    obtain rfl := List.mem_singleton.mp hn
    exact .inr ⟨_, (Tables.get_mem hfind).1, hlive, hexp, rfl⟩

/-! ### Families that ended -/

/-- The store knows a token of the family. -/
def Known (F : Ulid) (db : DB) : Prop := ∃ t ∈ db.refreshTokens, t.sessionFamilyId = F

/-- Every token of the family is rotated or revoked, or expires by the time `T`. -/
def Spent (F : Ulid) (T : Instant) (db : DB) : Prop :=
  ∀ t ∈ db.refreshTokens, t.sessionFamilyId = F → t.Live → t.expiresAt ≤ T

/-- Every token of the family is revoked. -/
def Revoked (F : Ulid) (db : DB) : Prop :=
  ∀ t ∈ db.refreshTokens, t.sessionFamilyId = F → t.revokedAt ≠ none

lemma Revoked.spent (h : Revoked F db) : Spent F T db :=
  fun t ht hF hl => absurd hl.2 (h t ht hF)

/-- A login draws the id of a family nobody has. -/
def FreshFamily (db : DB) (call : AuthCall) : Prop :=
  ∀ data familyId draw, call.op = .login data familyId draw → ¬ Known familyId db

lemma freshFamily_of_op {call : AuthCall}
    (h : ∀ data familyId draw, call.op ≠ .login data familyId draw) : FreshFamily db call :=
  fun data familyId draw hop _ => h data familyId draw hop

/-- The request exchanges a token of the family for a pair. -/
def Exchanges (env : Env) (F : Ulid) (db : DB) (call : AuthCall) : Prop :=
  ∃ data draw stored pair, call.op = .refresh data draw ∧
    findToken env db data.refreshToken = some stored ∧ stored.sessionFamilyId = F ∧
    (call.handle env db).response = .ok (some pair)

/-- A request at the time `T` or later; a login draws a new family. -/
def After (T : Instant) (db : DB) (call : AuthCall) : Prop :=
  FreshFamily db call ∧ T ≤ call.clk.now

lemma along_after {l : List AuthCall} (hl : Runs.Along (AuthCall.step env) FreshFamily db l) :
    Runs.Along (AuthCall.step env) (After 0) db l :=
  hl.imp fun _ _ hf => ⟨hf, Nat.zero_le _⟩

lemma not_issued {call : AuthCall} {n : RefreshToken} (hk : Known F db) (hs : Spent F T db)
    (hafter : After T db call) (hn : Issued db call n) : n.sessionFamilyId ≠ F := by
  rintro rfl
  rcases hn with ⟨data, draw, hop⟩ | ⟨t, ht, hl, hexp, hF⟩
  · exact hafter.1 _ _ _ hop hk
  · have hspent : t.expiresAt ≤ T := hs t ht hF hl
    exact absurd hexp (not_lt.mpr (hspent.trans hafter.2))

/-- **One step**: a known family that is spent stays so, and so does a revoked one. -/
theorem family_step {call : AuthCall} (hk : Known F db) (hs : Spent F T db)
    (hafter : After T db call) :
    Known F (call.step env db) ∧ Spent F T (call.step env db) ∧
      (Revoked F db → Revoked F (call.step env db)) := by
  obtain ⟨mark, new, ht, hmark, hnew⟩ := tokens_step (handle_effect env db call)
  have hback : ∀ t ∈ (call.step env db).refreshTokens, t.sessionFamilyId = F →
      ∃ t0 ∈ db.refreshTokens, t0.sessionFamilyId = F ∧ Marked t0 t := by
    intro t hmem hF
    rw [show (call.step env db).refreshTokens = _ from ht] at hmem
    rcases List.mem_append.mp hmem with hold | hin
    · obtain ⟨t0, h0, rfl⟩ := List.mem_map.mp hold
      exact ⟨t0, h0, (hmark t0).family ▸ hF, hmark t0⟩
    · exact absurd hF (not_issued hk hs hafter (hnew t hin))
  refine ⟨?_, ?_, ?_⟩
  · obtain ⟨t, hmem, hF⟩ := hk
    refine ⟨mark t, ?_, (hmark t).family.trans hF⟩
    rw [show (call.step env db).refreshTokens = _ from ht]
    exact List.mem_append_left _ (List.mem_map_of_mem hmem)
  · intro t hmem hF hl
    obtain ⟨t0, h0, hF0, hm⟩ := hback t hmem hF
    rw [hm.expires]
    exact hs t0 h0 hF0 (hm.live hl)
  · intro hr t hmem hF
    obtain ⟨t0, h0, hF0, hm⟩ := hback t hmem hF
    exact hm.revoked (hr t0 h0 hF0)

/-- No token of a spent family is exchanged. -/
theorem not_exchanges_of_spent {call : AuthCall} (hs : Spent F T db) (htime : T ≤ call.clk.now) :
    ¬ Exchanges env F db call := by
  rintro ⟨data, draw, stored, pair, hop, hfind, hF, hpair⟩
  cases handle_effect env db call with
  | idle _ _ hn | counted _ _ _ _ hn | revokedFamily _ _ _ _ hn | expired _ _ _ _ _ _ hn
  | loggedOut _ _ _ _ hn => exact hn pair hpair
  | passwordSet _ _ _ _ _ hr => cases hr.symm.trans hpair
  | loggedIn hop' _ _ _ => cases hop.symm.trans hop'
  | rotated hop' hfind' hlive hexp _ _ =>
    obtain ⟨rfl, rfl⟩ := AuthOp.refresh.inj (hop.symm.trans hop')
    obtain rfl := Option.some.inj (hfind.symm.trans hfind')
    have hspent : _ ≤ T := hs _ (Tables.get_mem hfind).1 hF hlive
    exact absurd hexp (not_lt.mpr (hspent.trans htime))

/-- Along a run that starts with a known family that is spent no token of it is exchanged. -/
theorem never_exchanged {l : List AuthCall} (hk : Known F db) (hs : Spent F T db)
    (hl : Runs.Along (AuthCall.step env) (After T) db l) :
    Runs.Along (AuthCall.step env) (fun db call => ¬ Exchanges env F db call) db l :=
  Runs.along_of_invariant (I := fun db => Known F db ∧ Spent F T db)
    (fun _ _ ha hi => ⟨(family_step hi.1 hi.2 ha).1, (family_step hi.1 hi.2 ha).2.1⟩)
    (fun _ _ ha hi => not_exchanges_of_spent hi.2 ha.2) hl ⟨hk, hs⟩

/-! ### Reuse of a spent token -/

/-- A spent token presented to refresh revokes its family and nothing else. -/
lemma refresh_spent {call : AuthCall} {data : RefreshRequest} {draw : TokenDraw}
    {stored : RefreshToken} (hop : call.op = .refresh data draw)
    (hfind : findToken env db data.refreshToken = some stored) (hspent : ¬ stored.Live) :
    call.step env db = revokeFamilyDurable call.clk db stored.sessionFamilyId := by
  have hmarks : stored.revokedAt ≠ none ∨ stored.rotatedAt ≠ none := by
    by_contra h
    rw [not_or, not_not, not_not] at h
    exact hspent ⟨h.2, h.1⟩
  simp only [AuthCall.step, AuthCall.handle, hop, refresh, hfind, if_pos hmarks]

lemma revoked_revokeFamilyDurable : Revoked F (revokeFamilyDurable clk db F) := by
  intro t ht hF
  obtain ⟨t0, _, he⟩ := Tables.mem_setWhere.mp ht
  split at he
  · rw [← he]
    exact Option.some_ne_none _
  · next h =>
    rw [he] at h
    simp [hF] at h

lemma others_revokeFamilyDurable :
    (revokeFamilyDurable clk db F).refreshTokens.filter (·.sessionFamilyId ≠ F) =
      db.refreshTokens.filter (·.sessionFamilyId ≠ F) := by
  refine (Tables.filter_setWhere (f := RefreshToken.revoke clk) (fun _ => rfl) _).trans ?_
  refine Tables.setWhere_of_not fun t ht => ?_
  simpa using (List.mem_filter.mp ht).2

/-- **The theft response**: once a spent token was presented to refresh, every token of its
family is revoked for good, tokens of other families are untouched, and in every continuation
no token of the family is exchanged. -/
theorem theft_response {call : AuthCall} {data : RefreshRequest} {draw : TokenDraw}
    {stored : RefreshToken} {l : List AuthCall} (hop : call.op = .refresh data draw)
    (hfind : findToken env db data.refreshToken = some stored) (hspent : ¬ stored.Live)
    (hl : Runs.Along (AuthCall.step env) FreshFamily (call.step env db) l) :
    Revoked stored.sessionFamilyId (call.step env db) ∧
    Revoked stored.sessionFamilyId (Runs.run (AuthCall.step env) (call.step env db) l) ∧
    (call.step env db).refreshTokens.filter (·.sessionFamilyId ≠ stored.sessionFamilyId) =
      db.refreshTokens.filter (·.sessionFamilyId ≠ stored.sessionFamilyId) ∧
    Runs.Along (AuthCall.step env)
      (fun db call => ¬ Exchanges env stored.sessionFamilyId db call) (call.step env db) l := by
  rw [refresh_spent hop hfind hspent] at hl ⊢
  have hrev : Revoked stored.sessionFamilyId
      (revokeFamilyDurable call.clk db stored.sessionFamilyId) := revoked_revokeFamilyDurable
  have hknown : Known stored.sessionFamilyId
      (revokeFamilyDurable call.clk db stored.sessionFamilyId) :=
    ⟨stored.revoke call.clk,
      Tables.mem_setWhere.mpr ⟨stored, (Tables.get_mem hfind).1, by simp⟩, rfl⟩
  refine ⟨hrev, ?_, others_revokeFamilyDurable,
    never_exchanged hknown hrev.spent (along_after hl)⟩
  have hinv := Runs.invariant (I := fun db => Known stored.sessionFamilyId db ∧
      Revoked stored.sessionFamilyId db)
    (fun _ _ ha hi => ⟨(family_step hi.1 hi.2.spent ha).1,
      (family_step hi.1 hi.2.spent ha).2.2 hi.2⟩) (along_after hl) ⟨hknown, hrev⟩
  exact hinv.2

/-! ### Logout -/

/-- A logout that goes through revokes the token presented. -/
lemma logout_spent {call : AuthCall} {data : LogoutRequest} {stored : RefreshToken}
    (hop : call.op = .logout data) (hfind : findToken env db data.refreshToken = some stored)
    (hok : (call.handle env db).response = .ok none) :
    (call.step env db).refreshTokens =
      (revokeTokenDurable call.clk db stored.id).refreshTokens := by
  simp only [AuthCall.handle, hop, Outcome.noContent, Outcome.transaction] at hok
  simp only [AuthCall.step, AuthCall.handle, hop, Outcome.noContent, Outcome.transaction]
  cases hbody : (do
    let ctx ← requireAuthenticated db call.ord call.clk call.http
    logout env call.clk ctx db data : Fallible DB) with
  | error e =>
    rw [hbody] at hok
    cases hok
  | ok db' =>
    obtain ⟨ctx, _, h⟩ := bind_ok.mp hbody
    simp only [logout, hfind] at h
    obtain ⟨_, rfl⟩ := audit_ok.mp h
    rfl

/-- **Logout ends the family** when every other token of it is spent already: rotated, revoked
or expired by the time `T` from which the later requests come. Then no continuation exchanges a
token of the family. -/
theorem logout_ends_family {call : AuthCall} {data : LogoutRequest} {stored : RefreshToken}
    {l : List AuthCall} (hop : call.op = .logout data)
    (hfind : findToken env db data.refreshToken = some stored)
    (hok : (call.handle env db).response = .ok none)
    (hothers : ∀ t ∈ db.refreshTokens, t.sessionFamilyId = stored.sessionFamilyId →
      t.id ≠ stored.id → t.Live → t.expiresAt ≤ T)
    (hl : Runs.Along (AuthCall.step env) (After T) (call.step env db) l) :
    Runs.Along (AuthCall.step env)
      (fun db call => ¬ Exchanges env stored.sessionFamilyId db call) (call.step env db) l := by
  have htok := logout_spent hop hfind hok
  have hmem := (Tables.get_mem hfind).1
  refine never_exchanged ⟨stored.revoke call.clk, ?_, rfl⟩ (fun t ht hF hlive => ?_) hl
  · rw [htok]
    exact Tables.mem_set.mpr ⟨stored, hmem, by simp⟩
  · rw [htok] at ht
    obtain ⟨t0, h0, he⟩ := Tables.mem_set.mp ht
    split at he
    · subst he
      exact absurd hlive.2 (Option.some_ne_none _)
    · next hid =>
      subst he
      exact hothers _ h0 hF hid hlive

/-! ### One session: a login, a refresh, and what follows -/

/-- One user who can log in. -/
def oneAccount : DB := { DB.empty with
  users := [User.new 1 (some "a@b.c") none (some "$correct1") .active none] }

/-- A request of the user. -/
def sessionCall (now : Instant) (op : AuthOp) : AuthCall where
  clk := ⟨now, 0⟩
  ord := .heap
  http := ⟨some 1, none, "r", some "127.0.0.1", some "agent"⟩
  op := op

lemma correct1_length : 1 ≤ "correct1".length ∧ "correct1".length ≤ 128 := by decide

def loginCall : AuthCall := sessionCall 1
  (.login ⟨"a@b.c", "correct1", by decide, correct1_length⟩ 51 ⟨61, "first"⟩)

def firstPresented : RefreshRequest := ⟨"first", by decide⟩

/-- The exchange of the first token. -/
def firstRefresh (now : Instant) : AuthCall := sessionCall now
  (.refresh firstPresented ⟨62, "second"⟩)

def secondRefresh (now : Instant) : AuthCall := sessionCall now
  (.refresh ⟨"second", by decide⟩ ⟨63, "third"⟩)

def firstLogout (now : Instant) : AuthCall := sessionCall now (.logout ⟨"first", by decide⟩)

def secondLogout (now : Instant) : AuthCall := sessionCall now (.logout ⟨"second", by decide⟩)

def firstToken (rotatedAt : Option Instant) : RefreshToken :=
  ⟨61, 1, "first", 51, 1 + seconds (30 * 24 * 3600), rotatedAt, none, some "agent",
    some "127.0.0.1"⟩

/-- The session after its login. -/
def loggedInOnce : DB := Runs.run (AuthCall.step .plain) oneAccount [loginCall]

/-- The session after its login and its first refresh. -/
def refreshedOnce : DB := Runs.run (AuthCall.step .plain) oneAccount [loginCall, firstRefresh 2]

/-- The first token is presented again, and the second one is lost with it. -/
theorem refreshedOnce_reuse :
    Revoked 51 ((firstRefresh 3).step .plain refreshedOnce) ∧
    Revoked 51 (Runs.run (AuthCall.step .plain) ((firstRefresh 3).step .plain refreshedOnce)
      [secondRefresh 4]) ∧
    ((firstRefresh 3).step .plain refreshedOnce).refreshTokens.filter
        (·.sessionFamilyId ≠ 51) =
      refreshedOnce.refreshTokens.filter (·.sessionFamilyId ≠ 51) ∧
    Runs.Along (AuthCall.step .plain) (fun db call => ¬ Exchanges .plain 51 db call)
      ((firstRefresh 3).step .plain refreshedOnce) [secondRefresh 4] :=
  theft_response rfl (show _ = some (firstToken (some 2)) by decide)
    (by decide) ⟨freshFamily_of_op nofun, trivial⟩

def secondToken : RefreshToken :=
  ⟨62, 1, "second", 51, 2 + seconds (30 * 24 * 3600), none, none, some "agent", some "127.0.0.1"⟩

/-- A logout with the newest token of a session that was refreshed ends it: neither token is
exchanged any more. -/
theorem refreshedOnce_newestLogout :
    Runs.Along (AuthCall.step .plain) (fun db call => ¬ Exchanges .plain 51 db call)
      ((secondLogout 3).step .plain refreshedOnce) [secondRefresh 4, firstRefresh 5] := by
  have hcontinues : Runs.Along (AuthCall.step .plain) (After 0)
      ((secondLogout 3).step .plain refreshedOnce) [secondRefresh 4, firstRefresh 5] :=
    ⟨⟨freshFamily_of_op nofun, Nat.zero_le _⟩, ⟨freshFamily_of_op nofun, Nat.zero_le _⟩, trivial⟩
  exact logout_ends_family rfl (show _ = some secondToken by decide) (by decide) (by decide)
    hcontinues

/-- A logout with the rotated token leaves its successor live. -/
theorem refreshedOnce_logout : ¬ ∀ (env : Env) (db : DB) (history l : List AuthCall)
    (call : AuthCall) (data : LogoutRequest) (stored : RefreshToken),
    Runs.Along (AuthCall.step env) FreshFamily db (history ++ call :: l) →
    call.op = .logout data →
    findToken env (Runs.run (AuthCall.step env) db history) data.refreshToken = some stored →
    (call.handle env (Runs.run (AuthCall.step env) db history)).response = .ok none →
    Runs.Along (AuthCall.step env)
      (fun db call => ¬ Exchanges env stored.sessionFamilyId db call)
      (call.step env (Runs.run (AuthCall.step env) db history)) l := by
  intro h
  have hfresh : Runs.Along (AuthCall.step .plain) FreshFamily oneAccount
      ([loginCall, firstRefresh 2] ++ firstLogout 3 :: [secondRefresh 4]) := by
    refine (⟨?_, freshFamily_of_op nofun, freshFamily_of_op nofun, freshFamily_of_op nofun,
      trivial⟩ : Runs.Along _ _ _ [loginCall, firstRefresh 2, firstLogout 3, secondRefresh 4])
    rintro _ familyId _ _ ⟨t, ht, _⟩
    simp [oneAccount, DB.empty] at ht
  have hno := (h .plain oneAccount [loginCall, firstRefresh 2] [secondRefresh 4] (firstLogout 3)
    _ (firstToken (some 2)) hfresh rfl (by decide) (by decide)).1
  exact hno ⟨_, _, _, _, rfl, rfl, rfl, rfl⟩

end SchoolOs
