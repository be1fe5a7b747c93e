import TTS.ClientConfiguration
import TTS.Overlay

/-!
# Configurations set before the connection

While there is no connection `setTTSConfiguration` merges what it is given into
one `m_cachedConfig`, which is sent when the connection is there. The engine
then mirrors a missing endpoint once, and not after each configuration.
-/

namespace TTS

open Monitor Overlay

/-! ## The client -/

/-- The comparisons `>= 1` and `<= 100`, which no infinity and no NaN passes. -/
def Double.InVolumeRange : Double → Prop
  | .finite q => 1 ≤ q ∧ q ≤ 100
  | .infinite _ | .nan => False

instance (d : Double) : Decidable d.InVolumeRange :=
  match d with
  | .finite q => inferInstanceAs (Decidable (1 ≤ q ∧ q ≤ 100))
  | .infinite _ | .nan => inferInstanceAs (Decidable False)

def Configuration.cache (c config : Configuration) : Configuration where
  ttsEndPoint := if !config.ttsEndPoint.isEmpty then config.ttsEndPoint else c.ttsEndPoint
  ttsEndPointSecured := if !config.ttsEndPointSecured.isEmpty then config.ttsEndPointSecured else c.ttsEndPointSecured
  language := if !config.language.isEmpty then config.language else c.language
  voice := if !config.voice.isEmpty then config.voice else c.voice
  volume := if config.volume.InVolumeRange then config.volume else c.volume
  rate := if 1 ≤ config.rate ∧ config.rate ≤ 100 then config.rate else c.rate
  volume_representable := by
    split
    · exact config.volume_representable
    · exact c.volume_representable
  rate_lt := by
    split
    · exact config.rate_lt
    · exact c.rate_lt

/-- A client with its `m_cachedConfig` and the texts it has sent to `setConfiguration`. -/
structure CachingClient where
  client : TTSClientPrivateRtRemote
  cachedConfig : Option Configuration
  requests : List Text

namespace CachingClient

/-- `setTTSConfiguration`; `came` says whether the request comes through. -/
def setTTSConfiguration (s : CachingClient) (config : Configuration) (came : Bool) : TTSError × CachingClient :=
  if !s.client.connected then (.ok, { s with cachedConfig := some ((s.cachedConfig.getD .new).cache config) })
  else if came then (.ok, { s with requests := s.requests ++ [config.toString ','] })
  else (.fail, s)

def connect (s : CachingClient) (policy : Option ResourceAllocationPolicy) (came : Bool) : CachingClient :=
  let s := { s with client := s.client.postConnect policy }
  match s.cachedConfig with
  | none => s
  | some config => { (s.setTTSConfiguration config came).2 with cachedConfig := none }

def setAll (s : CachingClient) (configs : List Configuration) : CachingClient :=
  configs.foldl (fun s config => (s.setTTSConfiguration config true).2) s

end CachingClient

def receiveAll : Monitor TTSManager → List Text → Option (Monitor TTSManager)
  | m, [] => some m
  | m, configuration :: requests =>
    match (ManagerOp.setConfiguration configuration).perform m with
    | .done _ m' => receiveAll m' requests
    | .blocked => none

namespace CachingClient

theorem setAll_connected {s : CachingClient} (h : s.client.connected = true) (cs : List Configuration) :
    (s.setAll cs).requests = s.requests ++ cs.map fun c => c.toString ',' := by
  induction cs generalizing s with
  | nil => exact (List.append_nil _).symm
  | cons c cs ih =>
    have hset : (s.setTTSConfiguration c true).2 = { s with requests := s.requests ++ [c.toString ','] } := by
      simp [setTTSConfiguration, h]
    have hrest := ih (s := { s with requests := s.requests ++ [c.toString ','] }) h
    rw [setAll, List.foldl_cons, hset]
    refine hrest.trans ?_
    rw [List.append_assoc, List.map_cons, List.singleton_append]

theorem setAll_disconnected {s : CachingClient} (h : s.client.connected = false) (cs : List Configuration) :
    s.setAll cs = { s with cachedConfig :=
      if cs = [] then s.cachedConfig else some (cs.foldl Configuration.cache (s.cachedConfig.getD .new)) } := by
  induction cs generalizing s with
  | nil => rfl
  | cons c cs ih =>
    have hset : (s.setTTSConfiguration c true).2 =
        { s with cachedConfig := some ((s.cachedConfig.getD .new).cache c) } := by
      simp [setTTSConfiguration, h]
    have hrest := ih (s := { s with cachedConfig := some ((s.cachedConfig.getD .new).cache c) }) h
    rw [setAll, List.foldl_cons, hset]
    refine hrest.trans ?_
    cases cs <;> rfl

theorem connect_requests {s : CachingClient} (h : s.client.connected = false) (hc : s.cachedConfig = none)
    (policy : Option ResourceAllocationPolicy) (cs : List Configuration) :
    ((s.setAll cs).connect policy true).requests =
      s.requests ++ if cs = [] then [] else [(cs.foldl Configuration.cache .new).toString ','] := by
  rw [setAll_disconnected h, hc]
  cases cs with
  | nil => exact (List.append_nil _).symm
  | cons c cs => rfl

end CachingClient

/-! ## The engine -/

def TTSConfiguration.received (e : TTSConfiguration) (c : Configuration) : TTSConfiguration :=
  (e.overlay c).mirrorEndPoints

theorem receiveAll_sent {cs : List Configuration} (h : ∀ c ∈ cs, c.CommaFree) (m : TTSManager) :
    ∃ m', receiveAll ⟨false, m⟩ (cs.map fun c => c.toString ',') = some ⟨false, m'⟩ ∧
      m'.defaultConfiguration = cs.foldl TTSConfiguration.received m.defaultConfiguration := by
  induction cs generalizing m with
  | nil => exact ⟨m, rfl, rfl⟩
  | cons c cs ih =>
    obtain ⟨r, m₁, hr, hdef⟩ := perform_sent (h c List.mem_cons_self) m
    obtain ⟨m₂, hm₂, hdef₂⟩ := ih (fun c' hc' => h c' (List.mem_cons_of_mem _ hc')) m₁
    refine ⟨m₂, ?_, ?_⟩
    · rw [List.map_cons, receiveAll, hr]
      exact hm₂
    · rw [hdef₂, hdef]
      rfl

/-! ## The settings one by one -/

def Double.value : Double → ℚ
  | .finite q => q
  | .infinite _ | .nan => 0

namespace TTSConfiguration

theorem mirrorEndPoints_eq (c : TTSConfiguration) :
    c.mirrorEndPoints = { c with
      ttsEndPoint := (mirror [] c.endPoints).1, ttsEndPointSecured := (mirror [] c.endPoints).2 } := by
  obtain ⟨endPoint, endPointSecured, _, _, _, _, _, _, _⟩ := c
  cases endPoint with
  | nil => cases endPointSecured <;> rfl
  | cons _ _ => cases endPointSecured <;> rfl

theorem received_endPoints (e : TTSConfiguration) (c : Configuration) :
    (e.received c).endPoints = mirrorStep [] e.endPoints (c.ttsEndPoint, c.ttsEndPointSecured) := by
  have h := overlaid_overlay e c
  have hpair : (e.overlay c).endPoints = (keep (· ≠ []) e.ttsEndPoint c.ttsEndPoint,
      keep (· ≠ []) e.ttsEndPointSecured c.ttsEndPointSecured) := by
    simp only [endPoints, h.ttsEndPoint, h.ttsEndPointSecured, keep, ite_not]
  have hmirror : ∀ c : TTSConfiguration, c.mirrorEndPoints.endPoints = mirror [] c.endPoints := fun c => by
    rw [mirrorEndPoints_eq]
    rfl
  rw [received, hmirror, hpair]
  rfl

theorem received_language (e : TTSConfiguration) (c : Configuration) :
    (e.received c).language = keep (· ≠ []) e.language c.language := by
  rw [received, mirrorEndPoints_eq]
  exact (overlaid_overlay e c).language.trans (ite_not _ _ _).symm

theorem received_voice (e : TTSConfiguration) (c : Configuration) :
    (e.received c).voice = keep (· ≠ []) e.voice c.voice := by
  rw [received, mirrorEndPoints_eq]
  exact (overlaid_overlay e c).voice.trans (ite_not _ _ _).symm

theorem received_rate (e : TTSConfiguration) (c : Configuration) :
    (e.received c).rate = keep (fun r => 1 ≤ r ∧ r ≤ 100) e.rate c.rate := by
  rw [received, mirrorEndPoints_eq]
  exact (overlaid_overlay e c).rate

theorem received_preemptiveSpeaking (e : TTSConfiguration) (c : Configuration) :
    (e.received c).preemptiveSpeaking = e.preemptiveSpeaking := by
  rw [received, mirrorEndPoints_eq]
  exact (overlaid_overlay e c).preemptiveSpeaking

theorem received_volume (e : TTSConfiguration) {c : Configuration} (h : ∃ k : Int, c.volume = .finite (k / 10 ^ 6)) :
    (e.received c).volume = keep (fun q => 1 ≤ q ∧ q ≤ 100) e.volume c.volume.value := by
  obtain ⟨k, hk⟩ := h
  rw [received, mirrorEndPoints_eq]
  have hvol := (overlaid_overlay e c).volume _ hk
  rw [sixDecimals_of_millionths ⟨k, rfl⟩] at hvol
  rw [hk]
  exact hvol

theorem eq_of_settings {a b : TTSConfiguration} (he : a.endPoints = b.endPoints) (hl : a.language = b.language)
    (hv : a.voice = b.voice) (hvol : a.volume = b.volume) (hr : a.rate = b.rate)
    (hp : a.preemptiveSpeaking = b.preemptiveSpeaking) : a = b := by
  obtain ⟨he1, he2⟩ := Prod.ext_iff.mp he
  cases a
  cases b
  cases he1
  cases he2
  cases hl
  cases hv
  cases hvol
  cases hr
  cases hp
  rfl

end TTSConfiguration

namespace Configuration

/-- No comma in a text, and a volume of at most six decimals. -/
def Sendable (c : Configuration) : Prop := c.CommaFree ∧ ∃ k : Int, c.volume = .finite (k / 10 ^ 6)

theorem sendable_new : Sendable .new := ⟨by decide, 0, by simp [new]⟩

theorem cache_text (c config : Text) : (if !config.isEmpty then config else c) = keep (· ≠ []) c config := by
  cases config <;> rfl

theorem cache_volume {config : Configuration} (h : ∃ k : Int, config.volume = .finite (k / 10 ^ 6)) (c : Configuration) :
    (c.cache config).volume.value = keep (fun q => 1 ≤ q ∧ q ≤ 100) c.volume.value config.volume.value := by
  obtain ⟨k, hk⟩ := h
  simp only [cache, hk, Double.InVolumeRange, keep]
  rw [apply_ite Double.value]
  rfl

theorem Sendable.cache {c config : Configuration} (h : c.Sendable) (h' : config.Sendable) : (c.cache config).Sendable := by
  obtain ⟨⟨h1, h2, h3, h4⟩, hv⟩ := h
  obtain ⟨⟨h1', h2', h3', h4'⟩, hv'⟩ := h'
  have htext : ∀ a b : Text, ',' ∉ a → ',' ∉ b → ',' ∉ (if !b.isEmpty then b else a) := by
    intro a b ha hb
    split
    · exact hb
    · exact ha
  refine ⟨⟨htext _ _ h1 h1', htext _ _ h2 h2', htext _ _ h3 h3', htext _ _ h4 h4'⟩, ?_⟩
  unfold Configuration.cache
  simp only
  split
  · exact hv'
  · exact hv

theorem sendable_merged {cs : List Configuration} (h : ∀ c ∈ cs, c.Sendable) {k : Configuration} (hk : k.Sendable) :
    (cs.foldl cache k).Sendable := by
  induction cs generalizing k with
  | nil => exact hk
  | cons c cs ih => exact ih (fun c' hc' => h c' (List.mem_cons_of_mem _ hc')) (hk.cache (h c List.mem_cons_self))

end Configuration

/-! ## Cached and direct -/

namespace TTSConfiguration

theorem received_merged {α : Type} (ok : α → Prop) [DecidablePred ok] {f : TTSConfiguration → α} {g : Configuration → α}
    (hnew : ¬ok (g .new)) (hr : ∀ c, c.Sendable → ∀ e, f (received e c) = keep ok (f e) (g c))
    (hc : ∀ c, c.Sendable → ∀ k, g (Configuration.cache k c) = keep ok (g k) (g c)) {cs : List Configuration}
    (hcs : ∀ c ∈ cs, c.Sendable) (e : TTSConfiguration) :
    f (e.received (cs.foldl Configuration.cache .new)) = f (cs.foldl received e) := by
  have hmerged := Configuration.sendable_merged hcs Configuration.sendable_new
  rw [hr _ hmerged, foldl_step ok (fun c hm => hc c (hcs c hm)), keep_foldl ok hnew,
    foldl_step ok fun c hm => hr c (hcs c hm)]

theorem foldl_received_preemptiveSpeaking (e : TTSConfiguration) (cs : List Configuration) :
    (cs.foldl received e).preemptiveSpeaking = e.preemptiveSpeaking := by
  induction cs generalizing e with
  | nil => rfl
  | cons c cs ih => rw [List.foldl_cons, ih, received_preemptiveSpeaking]

theorem received_merged_eq_iff {cs : List Configuration} (hcs : ∀ c ∈ cs, c.Sendable) (e : TTSConfiguration) :
    e.received (cs.foldl Configuration.cache .new) = cs.foldl received e ↔
      (e.received (cs.foldl Configuration.cache .new)).endPoints = (cs.foldl received e).endPoints := by
  refine ⟨fun h => congrArg endPoints h, fun h => eq_of_settings h ?_ ?_ ?_ ?_ ?_⟩
  · exact received_merged (· ≠ []) (fun h => h rfl) (fun c _ e => received_language e c)
      (fun c _ k => Configuration.cache_text k.language c.language) hcs e
  · exact received_merged (· ≠ []) (fun h => h rfl) (fun c _ e => received_voice e c)
      (fun c _ k => Configuration.cache_text k.voice c.voice) hcs e
  · exact received_merged (fun q => 1 ≤ q ∧ q ≤ 100) (by decide) (fun c hc e => received_volume e hc.2)
      (fun c hc k => Configuration.cache_volume hc.2 k) hcs e
  · exact received_merged (fun r => 1 ≤ r ∧ r ≤ 100) (by decide) (fun c _ e => received_rate e c)
      (fun c _ k => rfl) hcs e
  · rw [received_preemptiveSpeaking, foldl_received_preemptiveSpeaking]

theorem foldl_received_endPoints (e : TTSConfiguration) (cs : List Configuration) :
    (cs.foldl received e).endPoints =
      (cs.map fun c => (c.ttsEndPoint, c.ttsEndPointSecured)).foldl (mirrorStep []) e.endPoints := by
  induction cs generalizing e with
  | nil => rfl
  | cons c cs ih => rw [List.foldl_cons, ih, received_endPoints, List.map_cons, List.foldl_cons]

/-- An endpoint that nobody sets is mirrored from the first value of the other
one, or from its last. -/
def MirrorsSettle (e : TTSConfiguration) (cs : List Configuration) : Prop :=
  (e.ttsEndPointSecured = [] → (∀ c ∈ cs, c.ttsEndPointSecured = []) →
    firstInEffect [] e.ttsEndPoint (cs.map Configuration.ttsEndPoint) =
      lastInEffect [] e.ttsEndPoint (cs.map Configuration.ttsEndPoint)) ∧
  (e.ttsEndPoint = [] → (∀ c ∈ cs, c.ttsEndPoint = []) →
    firstInEffect [] e.ttsEndPointSecured (cs.map Configuration.ttsEndPointSecured) =
      lastInEffect [] e.ttsEndPointSecured (cs.map Configuration.ttsEndPointSecured))

theorem received_merged_endPoints (e : TTSConfiguration) (cs : List Configuration) :
    (e.received (cs.foldl Configuration.cache .new)).endPoints =
      mirrorLast [] e.endPoints (cs.map fun c => (c.ttsEndPoint, c.ttsEndPointSecured)) := by
  have hlast : ∀ (g : Configuration → Text) (t : Text), g .new = [] →
      (∀ k c, g (Configuration.cache k c) = keep (· ≠ []) (g k) (g c)) →
      keep (· ≠ []) t (g (cs.foldl Configuration.cache .new)) = lastInEffect [] t (cs.map g) := by
    intro g t hnew hg
    rw [foldl_step (· ≠ []) (fun c _ k => hg k c), hnew]
    exact keep_foldl (· ≠ []) (fun h => h rfl) t _
  have h1 := hlast Configuration.ttsEndPoint e.ttsEndPoint rfl fun k c => Configuration.cache_text _ _
  have h2 := hlast Configuration.ttsEndPointSecured e.ttsEndPointSecured rfl fun k c => Configuration.cache_text _ _
  rw [received_endPoints, mirrorStep, mirrorLast, List.map_map, List.map_map]
  exact congrArg (mirror []) (Prod.ext h1 h2)

theorem received_merged_iff {cs : List Configuration} (hcs : ∀ c ∈ cs, c.Sendable) (hne : cs ≠ []) (e : TTSConfiguration) :
    e.received (cs.foldl Configuration.cache .new) = cs.foldl received e ↔ e.MirrorsSettle cs := by
  have hempty : ∀ (g : Configuration → Text) (t : Text),
      lastInEffect [] t (cs.map g) = [] ↔ t = [] ∧ ∀ c ∈ cs, g c = [] := by
    intro g t
    rw [lastInEffect_eq_iff, List.forall_mem_map]
  rw [received_merged_eq_iff hcs, received_merged_endPoints, foldl_received_endPoints, MirrorsSettle]
  have hsec := hempty Configuration.ttsEndPointSecured e.ttsEndPointSecured
  have hplain := hempty Configuration.ttsEndPoint e.ttsEndPoint
  obtain ⟨c, cs, rfl⟩ := List.exists_cons_of_ne_nil hne
  rw [List.map_cons, mirrorLast_eq_iff, ← List.map_cons (f := fun c : Configuration => (c.ttsEndPoint, c.ttsEndPointSecured)),
    List.map_map, List.map_map]
  refine and_congr ?_ ?_
  · exact (imp_congr_left hsec).trans and_imp
  · exact (imp_congr_left hplain).trans and_imp

end TTSConfiguration

namespace CachingClient

theorem connect_uncached {s : CachingClient} (h : s.cachedConfig = none) (policy : Option ResourceAllocationPolicy) :
    s.connect policy true = { s with client := s.client.postConnect policy } := by
  simp only [connect, h]

def CachedEqDirect (s : CachingClient) (policy : Option ResourceAllocationPolicy) (cs : List Configuration)
    (m : TTSManager) : Prop :=
  ∃ a b, receiveAll ⟨false, m⟩ ((s.setAll cs).connect policy true).requests = some a ∧
    receiveAll ⟨false, m⟩ ((s.connect policy true).setAll cs).requests = some b ∧
    a.state.defaultConfiguration = b.state.defaultConfiguration

theorem cachedEqDirect_iff_received {s : CachingClient} (policy : Option ResourceAllocationPolicy) {cs : List Configuration}
    (hs : s.client.connected = false) (hcache : s.cachedConfig = none) (hreq : s.requests = [])
    (hcs : ∀ c ∈ cs, c.Sendable) (hne : cs ≠ []) (m : TTSManager) :
    s.CachedEqDirect policy cs m ↔
      m.defaultConfiguration.received (cs.foldl Configuration.cache .new) =
        cs.foldl TTSConfiguration.received m.defaultConfiguration := by
  have hmerged : ∀ c ∈ [cs.foldl Configuration.cache .new], c.CommaFree := fun c hc => by
    rw [List.mem_singleton.mp hc]
    exact (Configuration.sendable_merged hcs Configuration.sendable_new).1
  obtain ⟨a, ha, hadef⟩ := receiveAll_sent hmerged m
  obtain ⟨b, hb, hbdef⟩ := receiveAll_sent (fun c hc => (hcs c hc).1) m
  have hcached : receiveAll ⟨false, m⟩ ((s.setAll cs).connect policy true).requests = some ⟨false, a⟩ := by
    rw [connect_requests hs hcache, hreq, List.nil_append, if_neg hne]
    exact ha
  have hdirect : receiveAll ⟨false, m⟩ ((s.connect policy true).setAll cs).requests = some ⟨false, b⟩ := by
    rw [connect_uncached hcache, setAll_connected rfl, hreq, List.nil_append]
    exact hb
  rw [CachedEqDirect, hcached, hdirect]
  constructor
  · rintro ⟨_, _, ⟨⟩, ⟨⟩, heq⟩
    rw [← hbdef, ← heq, hadef]
    rfl
  · intro heq
    refine ⟨_, _, rfl, rfl, ?_⟩
    rw [hadef, hbdef, ← heq]
    rfl

/-- Configurations set before the connection leave the engine what they leave
it when each is sent, exactly when `MirrorsSettle`. -/
theorem cached_eq_direct_iff (s : CachingClient) (policy : Option ResourceAllocationPolicy) (cs : List Configuration)
    (m : TTSManager) (hs : s.client.connected = false) (hcache : s.cachedConfig = none) (hreq : s.requests = [])
    (hcs : ∀ c ∈ cs, c.CommaFree ∧ ∃ k : Int, c.volume = .finite (k / 10 ^ 6)) :
    s.CachedEqDirect policy cs m ↔ m.defaultConfiguration.MirrorsSettle cs := by
  by_cases hne : cs = []
  · subst hne
    have hcached : ((s.setAll []).connect policy true).requests = [] := by
      rw [connect_requests hs hcache, hreq, if_pos rfl]
      rfl
    have hdirect : ((s.connect policy true).setAll []).requests = [] := by
      rw [connect_uncached hcache]
      exact hreq
    rw [CachedEqDirect, hcached, hdirect]
    exact ⟨fun _ => ⟨fun _ _ => rfl, fun _ _ => rfl⟩, fun _ => ⟨_, _, rfl, rfl, rfl⟩⟩
  · rw [cachedEqDirect_iff_received policy hs hcache hreq hcs hne]
    exact TTSConfiguration.received_merged_iff hcs hne _

def fresh : CachingClient := ⟨.new true (some 0), none, []⟩

/-- An endpoint, then a voice: the secure endpoint is the plain one either way. -/
theorem cached_eq_direct_one_endPoint :
    fresh.CachedEqDirect none [{ Configuration.new with ttsEndPoint := "http://a/?".toList },
      { Configuration.new with voice := "eve".toList }] (.new .new ∅ .open 1) := by
  have hvol : (Double.finite 0) = .finite (((0 : Int) : ℚ) / 10 ^ 6) := by norm_num
  refine (cached_eq_direct_iff _ _ _ _ rfl rfl rfl ?_).mpr ⟨fun _ _ => by decide, fun _ h => ?_⟩
  · intro c hc
    simp only [List.mem_cons, List.not_mem_nil, or_false] at hc
    rcases hc with rfl | rfl
    · exact ⟨by decide, 0, hvol⟩
    · exact ⟨by decide, 0, hvol⟩
  · exact absurd (h _ List.mem_cons_self) (by decide)

/-- Two endpoints: sent one by one, the secure endpoint keeps the first. -/
theorem cached_ne_direct_two_endPoints :
    ∃ cs : List Configuration, (∀ c ∈ cs, c.Sendable) ∧ ¬fresh.CachedEqDirect none cs (.new .new ∅ .open 1) := by
  have hvol : (Double.finite 0) = .finite (((0 : Int) : ℚ) / 10 ^ 6) := by norm_num
  have hcs : ∀ c ∈ [{ Configuration.new with ttsEndPoint := "http://a/?".toList },
      { Configuration.new with ttsEndPoint := "http://b/?".toList }], c.Sendable := by
    intro c hc
    simp only [List.mem_cons, List.not_mem_nil, or_false] at hc
    rcases hc with rfl | rfl
    · exact ⟨by decide, 0, hvol⟩
    · exact ⟨by decide, 0, hvol⟩
  refine ⟨_, hcs, fun h => ?_⟩
  rw [cachedEqDirect_iff_received none rfl rfl rfl hcs (List.cons_ne_nil _ _),
    TTSConfiguration.received_merged_iff hcs (List.cons_ne_nil _ _)] at h
  have hsec : ∀ c ∈ [{ Configuration.new with ttsEndPoint := "http://a/?".toList },
      { Configuration.new with ttsEndPoint := "http://b/?".toList }], c.ttsEndPointSecured = [] := by
    intro c hc
    simp only [List.mem_cons, List.not_mem_nil, or_false] at hc
    rcases hc with rfl | rfl <;> rfl
  exact absurd (h.1 rfl hsec) (by decide)

end CachingClient

end TTS
