import TTS.CachedConfiguration
import TTS.ClientCalls
import TTS.Deferred
import TTS.History

/-!
# Configurations set by many threads

`setTTSConfiguration` tests `m_connected` and then stores or sends, on the
caller's thread; the startup thread sets `m_connected`, sends what is cached, by
the same function, and deletes it. Neither takes a lock, and a configuration is
stored field by field.
-/

namespace TTS

open Transition Deferred Deferred.Slot Overlay

/-- The fields of `m_cachedConfig`, in the order in which they are set. -/
def Configuration.writer : Writer Configuration where
  empty := .new
  writes config := [
    fun c => { c with ttsEndPoint := if !config.ttsEndPoint.isEmpty then config.ttsEndPoint else c.ttsEndPoint },
    fun c => { c with
      ttsEndPointSecured := if !config.ttsEndPointSecured.isEmpty then config.ttsEndPointSecured else c.ttsEndPointSecured },
    fun c => { c with language := if !config.language.isEmpty then config.language else c.language },
    fun c => { c with voice := if !config.voice.isEmpty then config.voice else c.voice },
    fun c => { c with
      volume := if config.volume.InVolumeRange then config.volume else c.volume
      volume_representable := by
        split
        · exact config.volume_representable
        · exact c.volume_representable },
    fun c => { c with
      rate := if 1 ≤ config.rate ∧ config.rate ≤ 100 then config.rate else c.rate
      rate_lt := by
        split
        · exact config.rate_lt
        · exact c.rate_lt }]

/-- All the writes in a row are `cache`. -/
theorem writer_merge (cached : Option Configuration) (config : Configuration) :
    Configuration.writer.merge cached config = (cached.getD .new).cache config := rfl

abbrev configurations : Machine (Slot Configuration) (Deferred.Label Configuration) := Slot.machine Configuration.writer

/-! ## The calls one at a time -/

/-- What `CachingClient` keeps of a slot. -/
structure Shows (st : Slot Configuration) (s : CachingClient) : Prop where
  connected : st.connected = s.client.connected
  cached : st.cached = s.cachedConfig
  away : st.connector = .away
  calls : st.calls = []
  sent : s.requests = st.sent.map (·.toString ',')

theorem setTTSConfiguration_exec {st : Slot Configuration} {s : CachingClient} (h : Shows st s) (config : Configuration)
    (came : Bool) :
    ∃ st', configurations.exec st (.call config ::
        if s.client.connected then [.send 0 came] else store Configuration.writer st.cached config) = some st' ∧
      Shows st' (s.setTTSConfiguration config came).2 := by
  unfold CachingClient.setTTSConfiguration
  cases hc : s.client.connected with
  | false =>
    refine ⟨_, exec_store h.calls (h.connected.trans hc) config, h.connected, ?_, h.away, h.calls, h.sent⟩
    rw [writer_merge]
    exact h.cached ▸ rfl
  | true =>
    refine ⟨_, exec_send h.calls (h.connected.trans hc) config came, ?_⟩
    cases came with
    | false => exact ⟨h.connected, h.cached, h.away, h.calls, by simpa using h.sent⟩
    | true => exact ⟨h.connected, h.cached, h.away, h.calls, by simp [h.sent]⟩

theorem connect_exec {st : Slot Configuration} {s : CachingClient} (h : Shows st s) (hout : s.client.connected = false)
    (policy : Option ResourceAllocationPolicy) (came : Bool) :
    ∃ as st', configurations.exec st as = some st' ∧ Shows st' (s.connect policy came) := by
  obtain ⟨connected, cached, connector, calls, accepted, sent⟩ := st
  obtain ⟨h1, rfl, rfl, rfl, h5⟩ := h
  obtain rfl : connected = false := h1.trans hout
  unfold CachingClient.connect
  cases hcached : s.cachedConfig with
  | none => exact ⟨[.connect, .look], _, rfl, rfl, rfl, rfl, rfl, h5⟩
  | some config =>
    refine ⟨[.connect, .look, .test, .deliver came, .clear], _, rfl, ?_⟩
    have hin : (s.client.postConnect policy).connected = true := rfl
    cases came with
    | false => exact ⟨rfl, rfl, rfl, rfl, by simpa [CachingClient.setTTSConfiguration, hin] using h5⟩
    | true => exact ⟨rfl, rfl, rfl, rfl, by simp [CachingClient.setTTSConfiguration, hin, h5]⟩

/-! ## What the engine is told -/

namespace TTSConfiguration

/-- All but the endpoints, of which a missing one mirrors the other. -/
structure SameSettings (a b : TTSConfiguration) : Prop where
  language : a.language = b.language
  voice : a.voice = b.voice
  volume : a.volume = b.volume
  rate : a.rate = b.rate
  preemptiveSpeaking : a.preemptiveSpeaking = b.preemptiveSpeaking

end TTSConfiguration

theorem kept_configurations {cs : List Configuration} {w : Configuration}
    (h : kept Configuration.writer cs = some w) : w = cs.foldl Configuration.cache .new := by
  have hsome : ∀ (k : Configuration) (cs : List Configuration),
      cs.foldl (fun c v => some (Configuration.writer.merge c v)) (some k) =
        some (cs.foldl Configuration.cache k) := by
    intro k cs
    induction cs generalizing k with
    | nil => rfl
    | cons c cs ih => exact ih (k.cache c)
  cases cs with
  | nil => cases h
  | cons c cs => exact (Option.some.inj ((hsome _ cs).symm.trans h)).symm

abbrev ToldAs (vs ws : List Configuration) : Prop := Delivered Configuration.writer vs ws

theorem ToldAs.sendable {vs ws : List Configuration} (h : ToldAs vs ws) (hvs : ∀ c ∈ vs, c.Sendable) :
    ∀ c ∈ ws, c.Sendable := by
  induction h with
  | nil => exact hvs
  | one v _ ih =>
    intro c hc
    rcases List.mem_append.mp hc with hc | hc
    · exact ih (fun c hc => hvs c (List.mem_append_left _ hc)) c hc
    · exact hvs c (List.mem_append_right _ hc)
  | @merged vs ws group w _ hw ih =>
    intro c hc
    rcases List.mem_append.mp hc with hc | hc
    · exact ih (fun c hc => hvs c (List.mem_append_left _ hc)) c hc
    · rw [List.mem_singleton.mp hc, kept_configurations hw]
      exact Configuration.sendable_merged (fun c hc => hvs c (List.mem_append_right _ hc)) Configuration.sendable_new

/-- A setting that the cache and the engine keep by the same rule. -/
theorem ToldAs.setting {α : Type} (ok : α → Prop) [DecidablePred ok] {f : TTSConfiguration → α} {g : Configuration → α}
    (hnew : ¬ok (g .new)) (hr : ∀ c, c.Sendable → ∀ e : TTSConfiguration, f (e.received c) = keep ok (f e) (g c))
    (hc : ∀ c, c.Sendable → ∀ k : Configuration, g (k.cache c) = keep ok (g k) (g c)) {vs ws : List Configuration}
    (h : ToldAs vs ws) (hvs : ∀ c ∈ vs, c.Sendable) (e : TTSConfiguration) :
    f (ws.foldl TTSConfiguration.received e) = f (vs.foldl TTSConfiguration.received e) := by
  induction h with
  | nil => rfl
  | @one vs ws v _ ih =>
    have hv : v.Sendable := hvs v (by simp)
    rw [List.foldl_concat, List.foldl_concat, hr v hv, hr v hv, ih fun c hc => hvs c (List.mem_append_left _ hc)]
  | @merged vs ws group w _ hw ih =>
    have hgroup : ∀ c ∈ group, c.Sendable := fun c hc => hvs c (List.mem_append_right _ hc)
    have hstep := fun e : TTSConfiguration => foldl_step ok (fun c hm => hr c (hgroup c hm)) e
    rw [List.foldl_concat, kept_configurations hw, TTSConfiguration.received_merged ok hnew hr hc hgroup,
      List.foldl_append, hstep, hstep, ih fun c hc => hvs c (List.mem_append_left _ hc)]

/-- **As if each had been sent by itself.** As long as stores do not overlap and keep to the order with sendings and
crashes, the configurations accepted since the last crash leave an engine that the client is connected to with the same
language, voice, volume and rate as if each had been sent alone, for any callers and interleavings: where no text has a
comma, and no volume more than six decimals. -/
theorem configured_one_by_one {st : Slot Configuration} (h : configurations.ReachableIf Orderly st)
    (hc : st.connected = true) (ha : st.connector = .away) (hs : ∀ c ∈ st.accepted, c.Sendable) (m : TTSManager) :
    ∃ m₁ m₂, receiveAll ⟨false, m⟩ (st.sent.map (·.toString ',')) = some ⟨false, m₁⟩ ∧
      receiveAll ⟨false, m⟩ (st.accepted.map (·.toString ',')) = some ⟨false, m₂⟩ ∧
      m₁.defaultConfiguration.SameSettings m₂.defaultConfiguration := by
  have htold : ToldAs st.accepted st.sent := (accounted h).delivered hc ha
  obtain ⟨m₁, h₁, hdef₁⟩ := receiveAll_sent (fun c hc => (htold.sendable hs c hc).1) m
  obtain ⟨m₂, h₂, hdef₂⟩ := receiveAll_sent (fun c hc => (hs c hc).1) m
  refine ⟨m₁, m₂, h₁, h₂, ?_⟩
  rw [hdef₁, hdef₂]
  refine ⟨?_, ?_, ?_, ?_, ?_⟩
  · exact htold.setting (· ≠ []) (fun h => h rfl) (fun c _ e => e.received_language c)
      (fun c _ k => Configuration.cache_text k.language c.language) hs _
  · exact htold.setting (· ≠ []) (fun h => h rfl) (fun c _ e => e.received_voice c)
      (fun c _ k => Configuration.cache_text k.voice c.voice) hs _
  · exact htold.setting (fun q => 1 ≤ q ∧ q ≤ 100) (by decide) (fun c hc e => e.received_volume hc.2)
      (fun c hc k => Configuration.cache_volume hc.2 k) hs _
  · exact htold.setting (fun r => 1 ≤ r ∧ r ≤ 100) (by decide) (fun c _ e => e.received_rate c) (fun c _ k => rfl) hs _
  · rw [TTSConfiguration.foldl_received_preemptiveSpeaking, TTSConfiguration.foldl_received_preemptiveSpeaking]

/-- A language, then a voice, then both. -/
def languageSet : Configuration := { Configuration.new with language := "fr".toList }

def voiceSet : Configuration := { Configuration.new with voice := "v".toList }

def bothSet : Configuration := { Configuration.new with language := "en".toList, voice := "w".toList }

/-- The first two are cached, the second by a call that has found no connection and stores when there is one. -/
theorem configured_one_by_one_cached : ∃ st m₁ m₂, st.accepted = [languageSet, voiceSet, bothSet] ∧
    st.sent = [(Configuration.new.cache languageSet).cache voiceSet, bothSet] ∧
    configurations.ReachableIf Orderly st ∧
    receiveAll ⟨false, .new .new ∅ .open 1⟩ (st.sent.map (·.toString ',')) = some ⟨false, m₁⟩ ∧
    receiveAll ⟨false, .new .new ∅ .open 1⟩ (st.accepted.map (·.toString ',')) = some ⟨false, m₂⟩ ∧
    m₁.defaultConfiguration.SameSettings m₂.defaultConfiguration := by
  have h := (Machine.ReachableIf.init rfl : configurations.ReachableIf Orderly start).execIf
    ([.call languageSet, .call voiceSet] ++ store Configuration.writer none languageSet ++ [.connect] ++
      store Configuration.writer (some .new) voiceSet ++
        [.look, .test, .deliver true, .clear, .call bothSet, .send 0 true]) rfl
  obtain ⟨m₁, m₂, hm⟩ := configured_one_by_one h rfl rfl (fun c hc => by
    have hcases : c = languageSet ∨ c = voiceSet ∨ c = bothSet := by simpa [start] using hc
    rcases hcases with rfl | rfl | rfl <;>
      exact ⟨by decide, 0, by simp [languageSet, voiceSet, bothSet, Configuration.new]⟩)
    (.new .new ∅ .open 1)
  exact ⟨_, m₁, m₂, rfl, rfl, h, hm⟩

/-- Two callers find no slot, and the second one's takes the place of the first one's. -/
example : ((configurations.exec start [.call languageSet, .call voiceSet, .find 0, .find 1, .make 0, .write 0, .write 0,
    .write 0, .make 1, .write 1, .write 1, .write 1, .write 1]).map fun st =>
      (st.accepted.length, st.cached.map fun c => (c.language, c.voice))) = some (2, some ([], "v".toList)) := rfl

end TTS
