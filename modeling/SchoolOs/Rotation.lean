import SchoolOs.Interleavings
import SchoolOs.TokenFamilies

/-!
Refresh rotation when requests interleave: the check of `rotated_at` is a statement of its own,
and what it read may have changed when the update runs.
-/

namespace SchoolOs

open ReadCommitted

variable {ι : Type*} [DecidableEq ι] {env : Env} {req : ι → Request}

/-! ### What is wanted -/

/-- A family has at most one token that is neither rotated nor revoked. -/
def OneLive (tokens : List RefreshToken) : Prop :=
  ∀ t ∈ tokens, ∀ t' ∈ tokens, t.sessionFamilyId = t'.sessionFamilyId → t.Live → t'.Live → t = t'

/-- No token is exchanged by two requests. -/
def SingleUse (s : Sys ι) : Prop :=
  ∀ i j stored stored' pair pair', s.pc i = .exchanged stored pair →
    s.pc j = .exchanged stored' pair' → stored.id = stored'.id → i = j

/-- When a request marks its token rotated, no other request has committed an exchange of the
token since it was read. -/
def Unraced (s : Sys ι) (e : Turn ι) : Prop :=
  ∀ i clk stored, e = .run i clk → s.pc i = .checked stored →
    ¬ s.store.Waits i (rotateToken clk stored) →
    ∀ t ∈ s.store.committed.refreshTokens, t.id = stored.id → t.rotatedAt = none

/-- The next statement marks the token. -/
def Pc.marksNext : Pc → Bool
  | .checked _ => true
  | _ => false

omit [DecidableEq ι] in
lemma unraced_of_pc {s : Sys ι} {i : ι} {clk : Clock} (h : (s.pc i).marksNext = false) :
    Unraced s (.run i clk) := by
  intro j clk' stored he hpc
  cases he
  rw [hpc] at h
  cases h

/-! ### The invariant -/

/-- A family has at most one token that is not rotated, the tip of its chain. -/
def OneTip (tokens : List RefreshToken) : Prop :=
  ∀ t ∈ tokens, ∀ t' ∈ tokens, t.sessionFamilyId = t'.sessionFamilyId → t.rotatedAt = none →
    t'.rotatedAt = none → t = t'

lemma OneTip.oneLive {tokens : List RefreshToken} (h : OneTip tokens) : OneLive tokens :=
  fun t ht t' ht' hF hl hl' => h t ht t' ht' hF hl.1 hl'.1

/-- What a request knows of the committed row of its token. -/
def Pc.Tracks (tokens : List RefreshToken) : Pc → Prop
  | .found stored | .checked stored => ∃ t ∈ tokens, t.id = stored.id ∧
      t.sessionFamilyId = stored.sessionFamilyId
  | .rotated stored | .issued stored _ => ∃ t ∈ tokens, t.id = stored.id ∧
      t.sessionFamilyId = stored.sessionFamilyId ∧ t.rotatedAt = none
  | .exchanged stored _ => ∃ t ∈ tokens, t.id = stored.id ∧ t.rotatedAt ≠ none
  | _ => True

/-- **The invariant of rotation**: tokens in flight are new, each request that marked its token
still finds it unmarked in the committed state, and exchanged tokens are marked there. -/
structure Rotating (s : Sys ι) : Prop where
  exclusive : s.store.Exclusive
  owned : Owned s
  keys : (s.store.committed.refreshTokens.map RefreshToken.id).Nodup
  tip : OneTip s.store.committed.refreshTokens
  tracks : ∀ i, (s.pc i).Tracks s.store.committed.refreshTokens
  fresh : ∀ i token, insertToken token ∈ s.store.own i →
    ∀ t ∈ s.store.committed.refreshTokens, t.id ≠ token.id
  single : SingleUse s

lemma rotating_start {s : Sys ι} (hs : Started s)
    (hkeys : (s.store.committed.refreshTokens.map RefreshToken.id).Nodup)
    (htip : OneTip s.store.committed.refreshTokens) : Rotating s where
  exclusive := by
    intro p hp
    rw [hs.pending] at hp
    exact absurd hp List.not_mem_nil
  owned := owned_start hs
  keys := hkeys
  tip := htip
  tracks := by
    intro i
    rw [hs.pc i]
    trivial
  fresh := by
    intro i token hmem
    rw [Store.mem_own, hs.pending] at hmem
    exact absurd hmem List.not_mem_nil
  single := by
    intro i j stored stored' pair pair' hi
    rw [hs.pc i] at hi
    cases hi

/-! ### What a commit does to it -/

lemma OneTip.marked {tokens : List RefreshToken} (h : OneTip tokens)
    {mark : RefreshToken → RefreshToken} (hmark : ∀ t, Marked t (mark t)) :
    OneTip (tokens.map mark) := by
  have hback : ∀ t, (mark t).rotatedAt = none → t.rotatedAt = none := by
    intro t hr
    by_contra hne
    exact (hmark t).rotated hne hr
  intro t1 h1 t2 h2 hF hr1 hr2
  obtain ⟨t, ht, rfl⟩ := List.mem_map.mp h1
  obtain ⟨t', ht', rfl⟩ := List.mem_map.mp h2
  rw [(hmark t).family, (hmark t').family] at hF
  rw [h t ht t' ht' hF (hback t hr1) (hback t' hr2)]

lemma OneTip.append {tokens : List RefreshToken} (h : OneTip tokens) {token : RefreshToken}
    (hnew : ∀ t ∈ tokens, t.rotatedAt = none → t.sessionFamilyId ≠ token.sessionFamilyId) :
    OneTip (tokens ++ [token]) := by
  intro t ht t' ht' hF hr hr'
  rcases List.mem_append.mp ht with ht | ht
  · rcases List.mem_append.mp ht' with ht' | ht'
    · exact h t ht t' ht' hF hr hr'
    · rw [List.mem_singleton.mp ht'] at hF
      exact absurd hF (hnew t ht hr)
  · rcases List.mem_append.mp ht' with ht' | ht'
    · rw [List.mem_singleton.mp ht] at hF
      exact absurd hF.symm (hnew t' ht' hr')
    · rw [List.mem_singleton.mp ht, List.mem_singleton.mp ht']

lemma Revoking.marked {t t' : RefreshToken} (h : Revoking t t') : Marked t t' := by
  refine ⟨?_, fun hr => ?_, h.revoked⟩
  · calc t' = { t with revokedAt := t'.revokedAt } := h.same
      _ = { t with rotatedAt := t'.rotatedAt, revokedAt := t'.revokedAt } := by rw [h.same]
  · rw [h.same]
    exact hr

lemma OneTip.onlyRevokes {db db' : DB} (h : OneTip db.refreshTokens) (hr : OnlyRevokes db db') :
    OneTip db'.refreshTokens := by
  obtain ⟨mark, htok, hmark⟩ := hr
  rw [htok]
  exact h.marked fun t => (hmark t).marked

lemma tracks_onlyRevokes {db db' : DB} (hr : OnlyRevokes db db') {pc : Pc}
    (h : pc.Tracks db.refreshTokens) : pc.Tracks db'.refreshTokens := by
  cases pc with
  | found stored | checked stored =>
    obtain ⟨t, ht, hid, hF⟩ := h
    obtain ⟨t', ht', hmark⟩ := hr.forth ht
    refine ⟨t', ht', ?_, ?_⟩ <;> rw [hmark.same] <;> assumption
  | rotated stored | issued stored pair =>
    obtain ⟨t, ht, hid, hF, hrot⟩ := h
    obtain ⟨t', ht', hmark⟩ := hr.forth ht
    refine ⟨t', ht', ?_, ?_, ?_⟩ <;> rw [hmark.same] <;> assumption
  | exchanged stored pair =>
    obtain ⟨t, ht, hid, hrot⟩ := h
    obtain ⟨t', ht', hmark⟩ := hr.forth ht
    refine ⟨t', ht', ?_, ?_⟩ <;> rw [hmark.same] <;> assumption
  | _ => trivial

section Exchange

variable {tokens : List RefreshToken} {stored token : RefreshToken} {clk : Clock}

variable (clk) in
/-- The tokens after an exchange. -/
def exchangeTokens (tokens : List RefreshToken) (stored token : RefreshToken) :
    List RefreshToken :=
  Tables.set RefreshToken.id stored.id (RefreshToken.rotate clk) tokens ++ [token]

lemma exchange_keys (hkeys : (tokens.map RefreshToken.id).Nodup)
    (hfresh : ∀ t ∈ tokens, t.id ≠ token.id) :
    ((exchangeTokens clk tokens stored token).map RefreshToken.id).Nodup := by
  have hset : (Tables.set RefreshToken.id stored.id (RefreshToken.rotate clk) tokens).map
      RefreshToken.id = tokens.map RefreshToken.id :=
    Tables.map_set (f := RefreshToken.rotate clk) RefreshToken.id (fun _ => rfl) tokens
  rw [exchangeTokens, List.map_append, hset, List.nodup_append]
  refine ⟨hkeys, List.nodup_singleton _, ?_⟩
  intro a ha b hb
  obtain ⟨t, ht, rfl⟩ := List.mem_map.mp ha
  rw [List.mem_singleton.mp hb]
  exact hfresh t ht

/-- The tip of the family of the exchanged token is its successor; other tips stay. -/
lemma OneTip.exchange (h : OneTip tokens) {t0 : RefreshToken} (h0 : t0 ∈ tokens)
    (hid : t0.id = stored.id) (hF0 : t0.sessionFamilyId = stored.sessionFamilyId)
    (hrot : t0.rotatedAt = none) (htoken : token.sessionFamilyId = stored.sessionFamilyId) :
    OneTip (exchangeTokens clk tokens stored token) := by
  refine (h.marked (marked_setWhere (marked_rotate clk) _)).append fun t ht hr => ?_
  obtain ⟨u, hu, rfl⟩ := Tables.mem_set.mp ht
  split at hr
  · cases hr
  next hne =>
  rw [if_neg hne, htoken]
  intro hF
  rw [h u hu t0 h0 (hF.trans hF0.symm) hr hrot, hid] at hne
  exact hne rfl

variable (clk stored token) in
lemma mem_exchangeTokens {t : RefreshToken} (ht : t ∈ tokens) :
    (if t.id = stored.id then t.rotate clk else t) ∈ exchangeTokens clk tokens stored token :=
  List.mem_append_left _ (Tables.mem_set.mpr ⟨t, ht, rfl⟩)

lemma tracks_exchange {pc : Pc} (h : pc.Tracks tokens)
    (hne : ∀ other, (pc = .rotated other ∨ ∃ pair, pc = .issued other pair) →
      other.id ≠ stored.id) : pc.Tracks (exchangeTokens clk tokens stored token) := by
  cases pc with
  | found other | checked other =>
    obtain ⟨t, ht, hid, hF⟩ := h
    refine ⟨_, mem_exchangeTokens stored token clk ht, ?_, ?_⟩ <;> split <;> assumption
  | rotated other =>
    obtain ⟨t, ht, hid, hF, hrot⟩ := h
    have hother : t.id ≠ stored.id := hid ▸ hne other (.inl rfl)
    refine ⟨t, ?_, hid, hF, hrot⟩
    have hmem := mem_exchangeTokens stored token clk ht
    rwa [if_neg hother] at hmem
  | issued other pair =>
    obtain ⟨t, ht, hid, hF, hrot⟩ := h
    have hother : t.id ≠ stored.id := hid ▸ hne other (.inr ⟨pair, rfl⟩)
    refine ⟨t, ?_, hid, hF, hrot⟩
    have hmem := mem_exchangeTokens stored token clk ht
    rwa [if_neg hother] at hmem
  | exchanged other pair =>
    obtain ⟨t, ht, hid, hrot⟩ := h
    refine ⟨_, mem_exchangeTokens stored token clk ht, ?_, ?_⟩
    · split <;> exact hid
    · split
      · exact Option.some_ne_none _
      · exact hrot
  | _ => trivial

end Exchange

/-! ### One turn -/

lemma singleUse_update {s : Sys ι} {store : Store ι DB Key} {i : ι} {pc : Pc}
    (h : SingleUse s) (hpc : ∀ stored pair, pc = .exchanged stored pair →
      ∀ j ≠ i, ∀ stored' pair', s.pc j = .exchanged stored' pair' → stored'.id ≠ stored.id) :
    SingleUse (⟨store, Function.update s.pc i pc⟩ : Sys ι) := by
  intro j k stored stored' pair pair' hj hk hid
  by_contra hne
  by_cases hji : j = i
  · have hki : k ≠ i := fun h => hne (hji.trans h.symm)
    simp only [hji, Function.update_self] at hj
    simp only [Function.update_of_ne hki] at hk
    exact hpc stored pair hj k hki stored' pair' hk hid.symm
  · simp only [Function.update_of_ne hji] at hj
    by_cases hki : k = i
    · simp only [hki, Function.update_self] at hk
      exact hpc stored' pair' hk j hji stored pair hj hid
    · simp only [Function.update_of_ne hki] at hk
      exact hne (h j k stored stored' pair pair' hj hk hid)

lemma reads_not_exchanged {clk : Clock} {db : DB} {pc pc' : Pc} (h : Reads clk db pc pc')
    {stored : RefreshToken} {pair : TokenPair} : pc' ≠ .exchanged stored pair := by
  cases h <;> nofun

lemma tracks_reads {clk : Clock} {db : DB} {pc pc' : Pc} (h : Reads clk db pc pc')
    (ht : pc.Tracks db.refreshTokens) : pc'.Tracks db.refreshTokens := by
  cases h with
  | @find stored hmem => exact ⟨stored, hmem, rfl, rfl⟩
  | check stored => exact ht
  | _ => trivial

lemma own_of_reads {clk : Clock} {db : DB} {pc pc' : Pc} (h : Reads clk db pc pc')
    {ws : List (Write DB Key)} (ho : pc.Owns ws) :
    ws = [] ∨ ∃ now, pc = .revoking now [] none := by
  cases h with
  | marked now => exact .inr ⟨now, rfl⟩
  | _ => exact .inl ho

lemma tracks_update {s : Sys ι} {tokens : List RefreshToken} {i : ι} {pc : Pc}
    (hi : pc.Tracks tokens) (h : ∀ j ≠ i, (s.pc j).Tracks tokens) :
    ∀ j, (Function.update s.pc i pc j).Tracks tokens :=
  (Function.forall_update_iff s.pc fun _ (pc : Pc) => pc.Tracks tokens).mpr ⟨hi, h⟩

lemma rotating_read {s : Sys ι} (h : Rotating s) {i : ι} {clk : Clock} {pc : Pc}
    (hr : Reads clk (s.store.view i) (s.pc i) pc) : Rotating (s.goto i pc) where
  exclusive := h.exclusive
  owned := owned_read h.owned hr
  keys := h.keys
  tip := h.tip
  tracks := by
    refine tracks_update ?_ fun j _ => h.tracks j
    rcases own_of_reads hr (h.owned i) with hnil | ⟨now, hpc⟩
    · have hview : s.store.view i = s.store.committed := Store.view_of_own_nil hnil
      rw [hview] at hr
      exact tracks_reads hr (h.tracks i)
    · rw [hpc] at hr
      cases hr
      trivial
  fresh := h.fresh
  single := singleUse_update h.single fun _ _ hpc => absurd hpc (reads_not_exchanged hr)

lemma writes_not_exchanged {r : Request} {clk : Clock} {db : DB} {pc pc' : Pc}
    {w : Write DB Key} (h : Writes env r clk db pc w pc') {stored : RefreshToken}
    {pair : TokenPair} : pc' ≠ .exchanged stored pair := by
  cases h <;> nofun

lemma writes_checked {r : Request} {clk : Clock} {db : DB} {pc pc' : Pc} {w : Write DB Key}
    (h : Writes env r clk db pc w pc') {stored : RefreshToken} (hpc : pc = .checked stored) :
    w = rotateToken clk stored := by
  cases h <;> cases hpc
  rfl

lemma writes_insert {r : Request} {clk : Clock} {db : DB} {pc pc' : Pc} {w : Write DB Key}
    (h : Writes env r clk db pc w pc') {token : RefreshToken} (hw : w = insertToken token) :
    (∃ stored, pc = .rotated stored) ∧ ∀ t ∈ db.refreshTokens, t.id ≠ token.id := by
  have hlocks : w.locks = [.token token.id, .digest token.tokenDigest] := by rw [hw]; rfl
  cases h with
  | rotate stored => simp [rotateToken] at hlocks
  | @insert stored _ _ _ token' _ _ hst =>
    refine ⟨⟨stored, rfl⟩, ?_⟩
    have hid : token'.id = token.id := by
      simp only [insertToken, List.cons.injEq, Key.token.injEq] at hlocks
      exact hlocks.1
    rw [← hid]
    exact hst.1.2 token' (List.mem_singleton.mpr rfl)
  | user now ids rows => simp [updateUser] at hlocks
  | revoke now id ids rows => simp [revokeToken] at hlocks
  | audit now rows => simp [insertAudit] at hlocks

lemma tracks_writes {r : Request} {clk : Clock} {db : DB} {pc pc' : Pc} {w : Write DB Key}
    (h : Writes env r clk db pc w pc') {tokens : List RefreshToken} (ht : pc.Tracks tokens)
    (hrace : ∀ stored, pc = .checked stored →
      ∀ t ∈ tokens, t.id = stored.id → t.rotatedAt = none) : pc'.Tracks tokens := by
  cases h with
  | rotate stored =>
    obtain ⟨t, hmem, hid, hF⟩ := ht
    exact ⟨t, hmem, hid, hF, hrace stored rfl t hmem hid⟩
  | insert stored _ _ _ => exact ht
  | user now ids rows => trivial
  | revoke now id ids rows => trivial
  | audit now rows => trivial

lemma view_ids {s : Sys ι} (ho : Owned s) {i : ι} {stored : RefreshToken}
    (hpc : s.pc i = .rotated stored) {t : RefreshToken}
    (ht : t ∈ s.store.committed.refreshTokens) :
    ∃ t' ∈ (s.store.view i).refreshTokens, t'.id = t.id := by
  have hown := ho i
  rw [hpc] at hown
  obtain ⟨clk, hown⟩ := hown
  refine ⟨if t.id = stored.id then t.rotate clk else t, ?_, by split <;> rfl⟩
  rw [Store.view, hown]
  exact Tables.mem_set.mpr ⟨t, ht, rfl⟩

lemma rotating_write {s : Sys ι} (h : Rotating s) {i : ι} {clk : Clock} {w : Write DB Key}
    {pc : Pc} {store : Store ι DB Key}
    (hw : Writes env (req i) clk (s.store.view i) (s.pc i) w pc)
    (hstore : s.store.write i w = some store) (hrace : Unraced s (.run i clk)) :
    Rotating (⟨store, Function.update s.pc i pc⟩ : Sys ι) := by
  have hcommitted : store.committed = s.store.committed := Store.write_committed hstore
  refine ⟨h.exclusive.write hstore, owned_step (.write hw hstore) h.owned, ?_, ?_, ?_, ?_, ?_⟩
  · rw [hcommitted]
    exact h.keys
  · rw [hcommitted]
    exact h.tip
  · rw [hcommitted]
    refine tracks_update ?_ fun j _ => h.tracks j
    refine tracks_writes hw (h.tracks i) fun stored hpc => hrace i clk stored rfl hpc ?_
    rw [← writes_checked hw hpc]
    exact (Store.write_eq_some.mp hstore).1
  · -- A token is new when it is inserted, for the mark has the predecessor alone.
    intro j token hmem
    rw [hcommitted]
    by_cases hj : j = i
    · subst hj
      rw [Store.own_write hstore] at hmem
      rcases List.mem_append.mp hmem with hmem | hmem
      · exact h.fresh j token hmem
      obtain ⟨⟨stored, hpc⟩, hfresh⟩ := writes_insert hw (List.mem_singleton.mp hmem).symm
      intro t ht
      obtain ⟨t', ht', hid⟩ := view_ids h.owned hpc ht
      rw [← hid]
      exact hfresh t' ht'
    · rw [Store.own_write_of_ne hstore hj] at hmem
      exact h.fresh j token hmem
  · exact singleUse_update h.single fun _ _ hpc => absurd hpc (writes_not_exchanged hw)

lemma rotating_fail {s : Sys ι} (h : Rotating s) (i : ι) (e : ApiError) :
    Rotating (s.fail i e) where
  exclusive := h.exclusive.abort
  owned := owned_fail h.owned i e
  keys := h.keys
  tip := h.tip
  tracks := tracks_update trivial fun j _ => h.tracks j
  fresh := fun j token hmem => h.fresh j token (Store.mem_own_abort hmem).2
  single := singleUse_update h.single fun _ _ hpc => by cases hpc

lemma rotating_revoked {s : Sys ι} (h : Rotating s) {i : ι} {rows : Option NewPasswordRows}
    (hpc : s.pc i = .written rows) : Rotating (s.commit i (afterRevocations rows)) := by
  have hr : OnlyRevokes s.store.committed (s.store.commit i).committed :=
    written_committed h.owned hpc
  refine ⟨h.exclusive.commit, owned_commit h.owned (hpc ▸ .revoked rows), ?_,
    h.tip.onlyRevokes hr, ?_, ?_, ?_⟩
  · rw [Sys.commit, hr.ids]
    exact h.keys
  · refine tracks_update ?_ fun j _ => tracks_onlyRevokes hr (h.tracks j)
    cases rows <;> trivial
  · intro j token hmem t' ht'
    obtain ⟨t, ht, hmark⟩ := hr.back ht'
    rw [hmark.same]
    exact h.fresh j token (Store.mem_own_commit hmem).2 t ht
  · exact singleUse_update h.single fun _ _ hpc => by cases rows <;> cases hpc

lemma own_rotate {s : Sys ι} (ho : Owned s) {j : ι} {other : RefreshToken}
    (h : s.pc j = .rotated other ∨ ∃ pair, s.pc j = .issued other pair) :
    ∃ clk, rotateToken clk other ∈ s.store.own j := by
  have hown := ho j
  rcases h with h | ⟨_, h⟩
  · rw [h] at hown
    obtain ⟨clk, hown⟩ := hown
    exact ⟨clk, by rw [hown]; exact List.mem_cons_self⟩
  · rw [h] at hown
    obtain ⟨clk, _, hown, _⟩ := hown
    exact ⟨clk, by rw [hown]; exact List.mem_cons_self⟩

lemma rotate_exclusive {s : Sys ι} (he : s.store.Exclusive) {i j : ι} (hj : j ≠ i)
    {clk clk' : Clock} {stored other : RefreshToken} (hi : rotateToken clk stored ∈ s.store.own i)
    (hown : rotateToken clk' other ∈ s.store.own j) : other.id ≠ stored.id := by
  intro hid
  refine hj (he.eq hown hi (k := .token stored.id) ?_ List.mem_cons_self)
  rw [← hid]
  exact List.mem_cons_self

lemma insert_exclusive {s : Sys ι} (he : s.store.Exclusive) {i j : ι} (hj : j ≠ i)
    {token other : RefreshToken} (hi : insertToken token ∈ s.store.own i)
    (hown : insertToken other ∈ s.store.own j) : other.id ≠ token.id := by
  intro hid
  refine hj (he.eq hown hi (k := .token token.id) ?_ List.mem_cons_self)
  rw [← hid]
  exact List.mem_cons_self

/-- A token some request still has to commit is new to the tokens after an exchange. -/
lemma fresh_exchange {s : Sys ι} (h : Rotating s) {i : ι} {clk : Clock}
    {stored token : RefreshToken} (hins : insertToken token ∈ s.store.own i) {j : ι}
    {other : RefreshToken} (hmem : insertToken other ∈ (s.store.commit i).own j) :
    ∀ t ∈ exchangeTokens clk s.store.committed.refreshTokens stored token, t.id ≠ other.id := by
  obtain ⟨hj, hmem⟩ := Store.mem_own_commit hmem
  intro t ht
  rcases List.mem_append.mp ht with ht | ht
  · obtain ⟨t1, h1, rfl⟩ := Tables.mem_set.mp ht
    have hne : t1.id ≠ other.id := h.fresh j other hmem t1 h1
    split <;> exact hne
  · rw [List.mem_singleton.mp ht]
    exact (insert_exclusive h.exclusive hj hins hmem).symm

/-- **The commit of an exchange**: by its lock nobody else has marked the token since. -/
lemma rotating_exchange {s : Sys ι} (h : Rotating s) {i : ι} {stored : RefreshToken}
    {pair : TokenPair} (hpc : s.pc i = .issued stored pair) :
    Rotating (s.commit i (.exchanged stored pair)) := by
  obtain ⟨clk, token, hins, hrot, _, hF, hcommit⟩ := exchange_committed h.owned hpc
  change _ = exchangeTokens clk _ stored token at hcommit
  have htracks := h.tracks i
  rw [hpc] at htracks
  obtain ⟨t0, h0, hid0, hF0, hrot0⟩ := htracks
  refine ⟨h.exclusive.commit, owned_commit h.owned (hpc ▸ .exchange stored pair), ?_, ?_, ?_, ?_,
    ?_⟩
  · rw [Sys.commit, hcommit]
    exact exchange_keys h.keys (h.fresh i token hins)
  · rw [Sys.commit, hcommit]
    exact h.tip.exchange h0 hid0 hF0 hrot0 hF
  · rw [Sys.commit, hcommit]
    refine tracks_update ?_ fun j hj => tracks_exchange (h.tracks j) fun other hother => ?_
    · refine ⟨_, mem_exchangeTokens stored token clk h0, ?_, ?_⟩
      · split <;> exact hid0
      · rw [if_pos hid0]
        exact Option.some_ne_none _
    · obtain ⟨clk', hown⟩ := own_rotate h.owned hother
      exact rotate_exclusive h.exclusive hj hrot hown
  · intro j other hmem t ht
    rw [Sys.commit, hcommit] at ht
    exact fresh_exchange h hins hmem t ht
  · -- Whoever exchanged the token before left it marked, and here it is not.
    refine singleUse_update h.single fun stored' _ hex j _ other pair' hj hid => ?_
    obtain ⟨rfl, rfl⟩ := Pc.exchanged.inj hex
    have htj := h.tracks j
    rw [hj] at htj
    obtain ⟨t, ht, hidt, hrott⟩ := htj
    have hsame : t = t0 :=
      List.inj_on_of_nodup_map h.keys ht h0 (hidt.trans (hid.trans hid0.symm))
    exact hrott (hsame ▸ hrot0)

/-- **One turn** keeps the invariant when it is not raced. -/
theorem rotating_step {s : Sys ι} {e : Turn ι} (h : Rotating s) (hrace : Unraced s e) :
    Rotating (s.step env req e) := by
  have hstep := stepped env req s e
  generalize s.step env req e = s' at hstep ⊢
  cases hstep with
  | idle _ => exact h
  | read hr => exact rotating_read h hr
  | write hw hstore => exact rotating_write h hw hstore hrace
  | @commit i clk pc hc =>
    generalize hpc : s.pc i = pc0 at hc
    cases hc with
    | exchange stored pair => exact rotating_exchange h hpc
    | revoked rows => exact rotating_revoked h hpc
  | fail _ i err => exact rotating_fail h i err

/-- **Rotation without races**: in every run in which no request marks its token after another
one committed an exchange of it, every token is exchanged at most once and every family has at
most one live token, in every state reached. -/
theorem rotation_unraced {s : Sys ι} {l : List (Turn ι)} (hs : Started s)
    (hkeys : (s.store.committed.refreshTokens.map RefreshToken.id).Nodup)
    (htip : OneTip s.store.committed.refreshTokens)
    (hl : Runs.Along (Sys.step env req) Unraced s l) :
    SingleUse (Runs.run (Sys.step env req) s l) ∧
      OneLive (Runs.run (Sys.step env req) s l).store.committed.refreshTokens := by
  have hinv : Rotating (Runs.run (Sys.step env req) s l) :=
    Runs.invariant (I := Rotating) (fun _ _ hrace h => rotating_step h hrace) hl
      (rotating_start hs hkeys htip)
  exact ⟨hinv.single, hinv.tip.oneLive⟩

/-! ### Where the chains come from -/

/-- A request taken as one step keeps every family with one tip, when logins draw new
families. -/
theorem oneTip_step {db : DB} {call : AuthCall} (h : OneTip db.refreshTokens)
    (hfresh : FreshFamily db call) : OneTip (call.step env db).refreshTokens := by
  have hset : ∀ (p : RefreshToken → Bool), OneTip (db.refreshTokens.map fun t =>
      if p t then t.revoke call.clk else t) :=
    fun p => h.marked (marked_setWhere (marked_revoke call.clk) p)
  cases handle_effect env db call with
  | idle _ ht _ | counted _ _ _ ht _ => exact ht.symm ▸ h
  | loggedIn hop _ _ ht =>
    refine ht.symm ▸ h.append fun t hmem _ hF => ?_
    exact hfresh _ _ _ hop ⟨t, hmem, hF⟩
  | revokedFamily _ _ _ ht _ | expired _ _ _ _ _ ht _ | loggedOut _ _ _ ht _
  | passwordSet _ _ _ _ ht _ => exact ht.symm ▸ hset _
  | rotated _ hfind hlive _ _ ht =>
    exact ht.symm ▸ h.exchange (Tables.get_mem hfind).1 rfl rfl hlive.1 rfl

/-- **Chains**: in every history of requests taken one at a time, every family has one tip. -/
theorem oneTip_run {db : DB} {l : List AuthCall} (h : OneTip db.refreshTokens)
    (hl : Runs.Along (AuthCall.step env) FreshFamily db l) :
    OneTip (Runs.run (AuthCall.step env) db l).refreshTokens :=
  Runs.invariant (I := fun db => OneTip db.refreshTokens)
    (fun _ _ hfresh hi => oneTip_step hi hfresh) hl h

/-! ### Two requests with one token -/

/-- Two requests with the first token of a session. -/
def twoRefreshes (second : Bool) : Request :=
  .refresh firstPresented ⟨none, none, "r", some "127.0.0.1", some "agent"⟩
    (if second then ⟨63, "third"⟩ else ⟨62, "second"⟩)

/-- The session after its login, and both requests about to begin. -/
def twoStarted : Sys Bool := ⟨⟨loggedInOnce, []⟩, fun _ => .start⟩

/-- The next `n` statements of one request. -/
def turns (i : Bool) (n : ℕ) : List (Turn Bool) := .replicate n (.run i ⟨2, 0⟩)

lemma twoStarted_started : Started twoStarted := ⟨rfl, fun _ => rfl⟩

lemma twoStarted_tip : OneTip twoStarted.store.committed.refreshTokens := by
  have hone : twoStarted.store.committed.refreshTokens = [firstToken none] := by decide
  rw [hone]
  intro t ht t' ht' _ _ _
  rw [List.mem_singleton.mp ht, List.mem_singleton.mp ht']

/-- One request after the other: the second finds the token rotated. -/
theorem twoRefreshes_serial :
    SingleUse (Runs.run (Sys.step .plain twoRefreshes) twoStarted (turns false 5 ++ turns true 4)) ∧
      OneLive (Runs.run (Sys.step .plain twoRefreshes) twoStarted
        (turns false 5 ++ turns true 4)).store.committed.refreshTokens := by
  refine rotation_unraced twoStarted_started (by decide) twoStarted_tip
    (⟨unraced_of_pc rfl, unraced_of_pc rfl, ?_, unraced_of_pc rfl, unraced_of_pc rfl,
      unraced_of_pc rfl, unraced_of_pc rfl, unraced_of_pc rfl, unraced_of_pc rfl,
      trivial⟩ : Runs.Along _ _ _ (turns false 5 ++ turns true 4))
  -- The first request marks a token nobody has marked.
  intro i clk stored _ _ _ t ht _
  exact (show ∀ t ∈ twoStarted.store.committed.refreshTokens, t.rotatedAt = none by decide) t ht

/-- Both requests read the token before either marks it, and both exchange it. -/
theorem twoRefreshes_raced : ¬ ∀ (env : Env) (req : Bool → Request) (s : Sys Bool)
    (l : List (Turn Bool)), Started s →
    (s.store.committed.refreshTokens.map RefreshToken.id).Nodup →
    OneTip s.store.committed.refreshTokens →
    SingleUse (Runs.run (Sys.step env req) s l) ∧
      OneLive (Runs.run (Sys.step env req) s l).store.committed.refreshTokens := by
  intro h
  have hsingle := (h .plain twoRefreshes twoStarted
    (turns false 2 ++ turns true 2 ++ turns false 3 ++ turns true 3) twoStarted_started
    (by decide) twoStarted_tip).1
  exact Bool.false_ne_true (hsingle _ _ _ _ _ _ rfl rfl rfl)

end SchoolOs
