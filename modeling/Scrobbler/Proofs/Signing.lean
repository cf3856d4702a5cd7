import Scrobbler.Service.Client
import Mathlib.Data.List.Nodup

/-!
# Every posted form is signed over what it sends

A tracking service authenticates a request by recomputing its signature: it takes the pairs it
received other than `api_sig` and `format`, in whatever order it keeps them, sorts them by key,
and compares the digest with `api_sig`. This module proves that every form the client posts
passes that check (`Form.SignedBy`): the session request, and the scrobble, love and ban calls.

The check passes because each form is its body signed and then extended by `api_sig` and
`format=json` alone, and because the keys of each body are distinct, so that sorting by key
gives one list whatever order the pairs come in (`Form.sortByKey_eq_of_perm`).

## Main statements

* `Form.signed_signedBy`: a body with distinct keys, none of them `api_sig` or `format`, signed,
  passes the check.
* `posted_forms_signed`: the session form and the call forms pass it, they are what the client
  posts, the scrobble form holds exactly the fields of the scrobble, and the session form's
  token is the digest of the user name and the password's digest.
-/

namespace Scrobbler

namespace Form

/-! ### Sorting by key -/

theorem sortByKey_perm (f : Form) : f.sortByKey.Perm f := List.mergeSort_perm _ _

theorem keyOrder_trans (a b c : String × String) (hab : decide (a.1 ≤ b.1) = true)
    (hbc : decide (b.1 ≤ c.1) = true) : decide (a.1 ≤ c.1) = true := by
  simpa using String.le_trans (by simpa using hab) (by simpa using hbc)

theorem keyOrder_total (a b : String × String) :
    (decide (a.1 ≤ b.1) || decide (b.1 ≤ a.1)) = true := by
  simpa using String.le_total a.1 b.1

theorem sortByKey_pairwise (f : Form) : f.sortByKey.Pairwise fun a b => decide (a.1 ≤ b.1) :=
  List.pairwise_mergeSort keyOrder_trans keyOrder_total f

/-- Forms that hold the same pairs, with distinct keys, sort to one list. -/
theorem sortByKey_eq_of_perm {f g : Form} (h : f.Perm g) (hk : (f.map Prod.fst).Nodup) :
    f.sortByKey = g.sortByKey := by
  have hperm : f.sortByKey.Perm g.sortByKey :=
    (sortByKey_perm f).trans (h.trans (sortByKey_perm g).symm)
  refine List.Perm.eq_of_pairwise ?_ (sortByKey_pairwise f) (sortByKey_pairwise g) hperm
  -- two pairs that each sort before the other share a key, so they are one pair of `f`
  intro a b ha hb hab hba
  have ha' : a ∈ f := (sortByKey_perm f).subset ha
  have hb' : b ∈ f := h.symm.subset ((sortByKey_perm g).subset hb)
  have hkey : a.1 = b.1 := String.le_antisymm (by simpa using hab) (by simpa using hba)
  exact List.inj_on_of_nodup_map hk ha' hb' hkey

theorem signature_eq_of_perm {f g : Form} (h : f.Perm g) (hk : (f.map Prod.fst).Nodup)
    (secret : String) : f.signature secret = g.signature secret := by
  rw [signature, signature, sortByKey_eq_of_perm h hk]

/-! ### What a server checks -/

/-- The pairs a server signs again: all but the signature and the format. -/
def unsigned (f : Form) : Form := f.filter fun p => p.1 != "api_sig" && p.1 != "format"

/-- A form that a server accepts under a secret: its keys are distinct, it ends with `api_sig`
and `format=json`, and `api_sig` is the signature of its other pairs, in whatever order the
server takes them. -/
structure SignedBy (secret : String) (f : Form) : Prop where
  /-- No key is sent twice. -/
  nodup : (f.map Prod.fst).Nodup
  /-- The signature and the format come last. -/
  ends : ∃ body sig, f = body ++ [("api_sig", sig), ("format", "json")]
  /-- The signature is that of the other pairs, taken in any order. -/
  verifies : ∀ g : Form, g.Perm f.unsigned → f.lookup "api_sig" = some (g.signature secret)

theorem unsigned_signed {body : Form} (secret : String) (hsig : "api_sig" ∉ body.map Prod.fst)
    (hfmt : "format" ∉ body.map Prod.fst) : (body.signed secret).unsigned = body := by
  rw [unsigned, signed, List.filter_append, List.filter_eq_self.2]
  · simp
  · intro p hp
    have h₁ : p.1 ≠ "api_sig" := fun h => hsig (List.mem_map.2 ⟨p, hp, h⟩)
    have h₂ : p.1 ≠ "format" := fun h => hfmt (List.mem_map.2 ⟨p, hp, h⟩)
    simp [h₁, h₂]

/-- A body with distinct keys, none of them `api_sig` or `format`, passes the check once
signed. -/
theorem signed_signedBy {body : Form} (secret : String) (hk : (body.map Prod.fst).Nodup)
    (hsig : "api_sig" ∉ body.map Prod.fst) (hfmt : "format" ∉ body.map Prod.fst) :
    SignedBy secret (body.signed secret) where
  nodup := by
    rw [signed, List.map_append, List.nodup_append]
    refine ⟨hk, by simp, ?_⟩
    simp only [List.map_cons, List.map_nil, List.mem_cons, List.not_mem_nil, or_false]
    rintro k hk' _ (rfl | rfl) rfl
    exacts [hsig hk', hfmt hk']
  ends := ⟨body, _, rfl⟩
  verifies g hg := by
    rw [unsigned_signed secret hsig hfmt] at hg
    -- the body holds no `api_sig`, so the one looked up is the appended signature
    have hnone : body.lookup "api_sig" = none :=
      List.lookup_eq_none_iff.2 fun p hp =>
        bne_iff_ne.2 fun h => hsig (List.mem_map.2 ⟨p, hp, h.symm⟩)
    rw [signed, List.lookup_append, hnone, signature_eq_of_perm hg ((hg.map Prod.fst).nodup_iff.2 hk)]
    simp

end Form

/-! ### The forms the client posts -/

/-- The keys of a scrobble: the album only when there is one, the duration only when it is
positive. -/
theorem Scrobble.keys_form (s : Scrobble) :
    s.form.map Prod.fst = ["artist", "track", "timestamp"] ++
      (if s.album.isSome then ["album"] else []) ++ (if 0 < s.duration then ["duration"] else []) := by
  rcases s with ⟨artist, title, _ | album, timestamp, duration⟩ <;>
    by_cases h : 0 < duration <;> simp [Scrobble.form, h]

/-- A call's form is its parameters, then the method, the key and the session, signed. -/
theorem Call.form_signedBy (call : Call) (apiKey apiSecret sessionKey : String) :
    Form.SignedBy apiSecret (call.form apiKey apiSecret sessionKey) := by
  apply Form.signed_signedBy
  all_goals
    cases call with
    | scrobble s =>
      -- four shapes, as the album and the duration are there or not
      simp only [Call.params, Call.method, List.map_append, List.map_cons, List.map_nil,
        Scrobble.keys_form]
      split <;> split <;> decide
    | love t => simp [Call.params, Call.method, TrackRef.form]
    | ban t => simp [Call.params, Call.method, TrackRef.form]

theorem Credentials.sessionForm_signedBy (c : Credentials) :
    Form.SignedBy c.apiSecret c.sessionForm :=
  Form.signed_signedBy c.apiSecret (by simp) (by simp) (by simp)

/-- The scrobble form holds the artist, the title and the start time, the album exactly when
there is one, even empty, and the duration exactly when it is positive. -/
theorem Scrobble.lookup_form (s : Scrobble) (apiKey apiSecret sessionKey : String) :
    ((Call.scrobble s).form apiKey apiSecret sessionKey).lookup "artist" = some s.artist ∧
    ((Call.scrobble s).form apiKey apiSecret sessionKey).lookup "track" = some s.title ∧
    ((Call.scrobble s).form apiKey apiSecret sessionKey).lookup "timestamp" =
      some (toString s.timestamp) ∧
    ((Call.scrobble s).form apiKey apiSecret sessionKey).lookup "album" = s.album ∧
    ((Call.scrobble s).form apiKey apiSecret sessionKey).lookup "duration" =
      if 0 < s.duration then some (toString s.duration) else none := by
  rcases s with ⟨artist, title, _ | album, timestamp, duration⟩ <;>
    by_cases h : 0 < duration <;>
    simp [Call.form, Form.signed, Call.params, Call.method, Scrobble.form, List.lookup_cons, h]

theorem Credentials.lookup_sessionForm_authToken (c : Credentials) :
    c.sessionForm.lookup "authToken" = some (Md5.hexDigest (c.username ++ c.passwordMd5)) := by
  simp [Credentials.sessionForm, Form.signed, List.lookup_cons, Credentials.authToken]

/-! ### What the client posts -/

namespace Client

variable {tr tr' : Transport}

/-- Opening a session posts the session form, and nothing else reaches the transport. -/
theorem openSession_congr (service : Service) (c : Credentials)
    (h : tr service.baseUrl c.sessionForm = tr' service.baseUrl c.sessionForm) :
    openSession tr service c = openSession tr' service c := by
  simp only [openSession, h]

theorem openSession_keys {service : Service} {c : Credentials} {client : Client}
    (h : openSession tr service c = .ok client) :
    client.apiKey = c.apiKey ∧ client.apiSecret = c.apiSecret := by
  unfold openSession at h
  split at h
  · cases h
  · rename_i text _
    cases hkey : readSessionKey text with
    | error chain => simp [hkey] at h
    | ok key =>
      simp only [hkey] at h
      cases h
      exact ⟨rfl, rfl⟩

/-- Sending a call posts the call's form, and nothing else reaches the transport. -/
theorem send_congr (client : Client) (call : Call)
    (h : tr client.service.baseUrl (call.form client.apiKey client.apiSecret client.sessionKey) =
      tr' client.service.baseUrl (call.form client.apiKey client.apiSecret client.sessionKey)) :
    client.send tr call = client.send tr' call := by
  simp only [send, h]

end Client

/-- Every request the client posts is signed over exactly the pairs it sends. The session
form, and the form of every call on a session (a scrobble, a love, a ban), has distinct keys,
ends with `api_sig` and `format=json`, and its `api_sig` is the signature, under the API
secret, of its other pairs taken in any order; these forms are all that opening a session and
sending a call post, and an opened session signs with the credentials' key and secret. The
scrobble form holds the artist, the title and the start time, the album exactly when there is
one and the duration exactly when it is positive, each once; the session form's token is the
digest of the user name followed by the password's digest. -/
theorem posted_forms_signed (c : Credentials) (client : Client) (s : Scrobble) :
    (Form.SignedBy c.apiSecret c.sessionForm ∧
      c.sessionForm.lookup "authToken" = some (Md5.hexDigest (c.username ++ c.passwordMd5)) ∧
      (∀ (tr tr' : Transport) (service : Service),
        tr service.baseUrl c.sessionForm = tr' service.baseUrl c.sessionForm →
          Client.openSession tr service c = Client.openSession tr' service c) ∧
      ∀ (tr : Transport) (service : Service) (opened : Client),
        Client.openSession tr service c = .ok opened →
          opened.apiKey = c.apiKey ∧ opened.apiSecret = c.apiSecret) ∧
    (∀ call : Call,
      Form.SignedBy client.apiSecret (call.form client.apiKey client.apiSecret client.sessionKey) ∧
      ∀ tr tr' : Transport,
        tr client.service.baseUrl (call.form client.apiKey client.apiSecret client.sessionKey) =
          tr' client.service.baseUrl (call.form client.apiKey client.apiSecret client.sessionKey) →
        client.send tr call = client.send tr' call) ∧
    (((Call.scrobble s).form client.apiKey client.apiSecret client.sessionKey).lookup "artist" =
        some s.artist ∧
      ((Call.scrobble s).form client.apiKey client.apiSecret client.sessionKey).lookup "track" =
        some s.title ∧
      ((Call.scrobble s).form client.apiKey client.apiSecret client.sessionKey).lookup "timestamp" =
        some (toString s.timestamp) ∧
      ((Call.scrobble s).form client.apiKey client.apiSecret client.sessionKey).lookup "album" =
        s.album ∧
      ((Call.scrobble s).form client.apiKey client.apiSecret client.sessionKey).lookup "duration" =
        if 0 < s.duration then some (toString s.duration) else none) :=
  ⟨⟨c.sessionForm_signedBy, c.lookup_sessionForm_authToken,
      fun _ _ service h => Client.openSession_congr service c h,
      fun _ _ _ h => Client.openSession_keys h⟩,
    fun call => ⟨call.form_signedBy _ _ _, fun _ _ h => client.send_congr call h⟩,
    s.lookup_form _ _ _⟩

end Scrobbler
