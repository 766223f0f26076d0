import Adventure.Proofs.Steps

/-!
# The ambience and the looping track

A session notes the track that it loops as its ambience, and changes the ambience by that note
alone.  An action that stops a track by its name also stops the ambience if that is the track, and
then the note stays: for the session the track still plays, so nothing starts it again until another
ambience was set.

## Main definitions

* `Session.InTune`: the looping tracks are those of the ambience
* `Session.Mute`: a track is noted as the ambience and does not play
* `Session.Sounds`: what a step does about the ambience
* `World.shore`: a world in which the ambience can be stopped by its name

## Main results

* `Step.sounds`: every step is of this kind
* `Underway.music_of_playing`: nothing is looped but the ambience
* `Played.inTune_iff`: when the looping tracks are those of the ambience
-/

namespace Adventure

open Session

namespace Session

/-- The tracks that are looped are exactly those of the ambience. -/
def InTune (s : Session) : Prop :=
  ∀ key, s.display.playing.contains key = true ↔ s.player.music = some key

/-- A track is noted as the ambience, but it is not looped. -/
structure Mute (key : String) (s : Session) : Prop where
  music : s.player.music = some key
  silent : s.display.playing.contains key = false

/-- What a step does about the ambience: nothing, or another one is set, or a track is stopped by
its name. -/
inductive Sounds (s : Session) : Session → Prop where
  | aside {t : Session} (hm : t.player.music = s.player.music)
      (hp : t.display.playing = s.display.playing) : Sounds s t
  | tune {audio : Option String} (hne : s.player.music ≠ audio)
      (h : ∀ key, audio = some key → s.catalog.audio.contains key = true) : Sounds s (s.tuned audio)
  | stop {key : String} (h : s.catalog.audio.contains key = true) : Sounds s (s.cued [.stop key])

variable {s t : Session}

/-- Cues about other parts of the display are aside. -/
theorem Sounds.of_cues {parts : List Part} (hcues : s.Cues parts t) (hp : .playing ∉ parts)
    (hm : t.player.music = s.player.music) : s.Sounds t :=
  .aside hm (hcues.playing hp)

theorem contains_playing_tuned (s : Session) (audio : Option String) (key : String) :
    (s.tuned audio).display.playing.contains key =
      (decide (audio = some key) ||
        (decide (s.player.music ≠ some key) && s.display.playing.contains key)) := by
  have hcues : (s.tuned audio).display =
      (s.musicCues audio).foldl Display.perform s.display := rfl
  rw [hcues, musicCues]
  -- The old track is stopped, if there is one, before the new one starts.
  cases s.player.music <;> cases audio <;>
    simp [Display.perform, Display.render, Names.contains_add, eq_comm]

theorem contains_playing_stop (s : Session) (stopped key : String) :
    (s.cued [.stop stopped]).display.playing.contains key =
      (decide (key ≠ stopped) && s.display.playing.contains key) :=
  Table.contains_erase s.display.playing stopped key

/-- Only the ambience is looped after a step if only the ambience was looped before. -/
theorem Sounds.music_of_playing (h : s.Sounds t)
    (hs : ∀ key, s.display.playing.contains key = true → s.player.music = some key) {key : String}
    (hp : t.display.playing.contains key = true) : t.player.music = some key := by
  cases h with
  | aside hmusic hplaying =>
    rw [hmusic]
    exact hs key (hplaying ▸ hp)
  | @tune audio hne =>
    rw [contains_playing_tuned] at hp
    by_cases haudio : audio = some key
    · exact haudio
    · simp only [haudio, decide_false, Bool.false_or, Bool.and_eq_true, decide_eq_true_iff] at hp
      exact absurd (hs key hp.2) hp.1
  | stop =>
    rw [contains_playing_stop, Bool.and_eq_true] at hp
    exact hs key hp.2

/-- The ambience is a known track after a step if it was one before. -/
theorem Sounds.music_known (h : s.Sounds t) (hknown : s.catalog.Within t.catalog)
    (hs : ∀ key, s.player.music = some key → s.catalog.audio.contains key = true) {key : String}
    (hm : t.player.music = some key) : t.catalog.audio.contains key = true := by
  cases h with
  | aside hmusic =>
    rw [hmusic] at hm
    exact hknown.contains_audio (hs key hm)
  | tune _ h => exact h key hm
  | stop => exact hs key hm

/-- **What makes the ambience mute**: the track was mute before, or it was stopped by its name. -/
theorem Sounds.mute (h : s.Sounds t) {key : String} (ht : t.Mute key) :
    s.Mute key ∨ s.player.music = some key ∧ s.catalog.audio.contains key = true ∧
      t = s.cued [.stop key] := by
  obtain ⟨hmusic, hsilent⟩ := ht
  cases h with
  | aside hm hp => exact .inl ⟨hm ▸ hmusic, hp ▸ hsilent⟩
  | @tune audio hne =>
    -- An ambience that was just set plays.
    have haudio : audio = some key := hmusic
    rw [contains_playing_tuned, haudio] at hsilent
    simp at hsilent
  | @stop stopped hknown =>
    by_cases hkey : key = stopped
    · subst hkey
      exact .inr ⟨hmusic, hknown, rfl⟩
    · rw [contains_playing_stop] at hsilent
      exact .inl ⟨hmusic, by simpa [hkey] using hsilent⟩

/-- A mute ambience stays mute as long as it is the ambience. -/
theorem Sounds.mute_of_mute (h : s.Sounds t) {key : String} (hs : s.Mute key)
    (hm : t.player.music = some key) : t.Mute key := by
  refine ⟨hm, ?_⟩
  cases h with
  | aside _ hp => exact hp ▸ hs.silent
  | @tune audio hne =>
    have haudio : audio = some key := hm
    exact absurd (hs.music.trans haudio.symm) hne
  | stop => rw [contains_playing_stop, hs.silent, Bool.and_false]

theorem mute_stop {key : String} (h : s.player.music = some key) :
    (s.cued [.stop key]).Mute key := by
  refine ⟨h, ?_⟩
  rw [contains_playing_stop]
  simp

end Session

/-! ## Steps -/

section

variable {P : Policy} {s t u : Session} {e : Error} {stage : String}

theorem Asked.sounds (h : Asked P s stage t) {parts : List Part} (hcues : t.Cues parts u)
    (hp : .playing ∉ parts) (hm : u.player.music = t.player.music) : s.Sounds u := by
  have hmusic : t.player.music = s.player.music := by
    cases h with
    | direct | code => rfl
  exact .of_cues (h.cues.trans hcues) (by simpa using hp) (hm.trans hmusic)

theorem Move.sounds (h : Move P s t) : s.Sounds t := by
  cases h with
  | tune hne h => exact .tune hne h
  | stop h => exact .stop h
  | enter => exact .of_cues (cues_changed s _ _ _) (by simp) rfl
  | hide => exact .of_cues (cues_hidden s false) (by simp) rfl
  | notice text => exact .of_cues (cues_noticed s text) (by simp) rfl
  | block text => exact .of_cues (cues_blocked s text _ _) (by simp) rfl
  | close => exact .of_cues ((cues_noticeClosed s).trans (cues_shown _ _)) (by simp) rfl
  | answer => exact .of_cues ((cues_answered s).trans (cues_shown _ _)) (by simp) rfl
  | preload h => exact h.sounds ((cues_requested _ _).trans (cues_preloading _ _)) (by simp) rfl
  | load h => exact h.sounds ((cues_requested _ _).trans (cues_finished _ _ _)) (by simp) rfl
  | complete => exact .of_cues (cues_finished (s.reported _) _ _) (by simp) rfl
  | fade | swell | play | redirect | assign | increment | schedule | fire | clear | queue
  | reportBatches | reportTimers => exact .aside rfl rfl

theorem Halt.sounds (h : Halt P s e t) : s.Sounds t := by
  cases h with
  | reject | incomplete => exact .aside rfl rfl
  | strand => exact .of_cues (cues_stranded s _) (by simp) rfl
  | close => exact .of_cues (cues_noticeClosed s) (by simp) rfl
  | answer => exact .of_cues (cues_answered s) (by simp) rfl
  | unstaged h => exact h.sounds (.of_display rfl) (by simp) rfl
  | unresolved h => exact h.sounds (cues_requested _ _) (by simp) rfl

/-- **Each step** leaves the ambience aside, sets another one, or stops a track by its name. -/
theorem Session.Step.sounds (h : s.Step t) : s.Sounds t := by
  cases h with
  | move h => exact h.sounds
  | halt h => exact h.sounds

end

/-! ## Single tracks -/

theorem Table.erase_of_not_contains {α : Type} {t : Table α} {key : String}
    (h : t.contains key = false) : t.erase key = t := by
  apply Table.ext_get?
  intro other
  by_cases heq : other = key
  · subst heq
    rw [get?_erase_self, get?_eq_none_iff.2 h]
  · exact get?_erase_of_ne t heq

section

variable {s t : Session} {r : Except Error Unit} {run : Script → Play Unit} {a : Action}
  {key : String} {c : Cue}

/-- An action about a track gives its one cue, or is refused. -/
theorem Play.cued_of_track (hrun : perform run a = do
      let _ ← ask fun s => s.catalog.audioFiles key
      cue c) (h : (perform run a).outcome s = some (r, t)) : t = s ∨ t = s.cued [c] := by
  rw [hrun, outcome_bind, outcome_audioFiles] at h
  cases hkey : s.catalog.audio.get? key with
  | none =>
    rw [hkey] at h
    cases h
    exact .inl rfl
  | some urls =>
    rw [hkey] at h
    cases h
    exact .inr rfl

/-- **A track that is played or stopped by its name** leaves the looping tracks as they are, unless
it is one of them that is stopped. -/
theorem Play.playing_of_track (ha : a.effect.track? = some key)
    (hmusic : ∀ audio config, a.effect ≠ .setMusic audio config)
    (hidle : a.effect = .stopAudio key → s.display.playing.contains key = false)
    (h : (perform run a).outcome s = some (r, t)) : t.display.playing = s.display.playing := by
  cases he : a.effect with
  | setMusic audio config => exact absurd he (hmusic audio config)
  | playAudio other config =>
    rw [he] at ha
    cases ha
    rcases cued_of_track (c := .play key false) (by rw [perform, he]) h with rfl | rfl <;> rfl
  | stopAudio other =>
    rw [he] at ha
    cases ha
    rcases cued_of_track (c := .stop key) (by rw [perform, he]) h with rfl | rfl
    · rfl
    · exact Table.erase_of_not_contains (hidle he)
  | _ =>
    rw [he] at ha
    cases ha

end

/-! ## Sessions -/

section

variable {arrows : List String} {world : World} {s : Session}

/-- Nothing is looped but the ambience. -/
theorem Underway.music_of_playing (h : Underway arrows world s) {key : String}
    (hp : s.display.playing.contains key = true) : s.player.music = some key := by
  refine h.invariant (I := fun s => ∀ {key}, s.display.playing.contains key = true →
    s.player.music = some key) ?_ ?_ ?_ hp
  · intro id key hp
    cases hp
  · intro id id' key hp
    rw [(cues_begun (withArrows id arrows) id' world).playing (by simp)] at hp
    cases hp
  · intro s t _ hs hstep key hp
    exact hstep.sounds.music_of_playing (fun _ => hs) hp

/-- The ambience is a track that is known. -/
theorem Underway.music_known (h : Underway arrows world s) {key : String}
    (hm : s.player.music = some key) : s.catalog.audio.contains key = true := by
  refine h.invariant (I := fun s => ∀ {key}, s.player.music = some key →
    s.catalog.audio.contains key = true) ?_ ?_ ?_ hm
  · intro id key hm
    cases hm
  · intro id id' key hm
    cases hm
  · intro s t _ hs hstep key hm
    exact hstep.sounds.music_known hstep.extends.catalog (fun _ => hs) hm

/-- **Where a mute ambience comes from**: it was stopped by its name. -/
theorem Underway.exists_stop (h : Underway arrows world s) {key : String} (hs : s.Mute key) :
    ∃ t, Underway arrows world t ∧ t.player.music = some key ∧
      t.catalog.audio.contains key = true ∧ (t.cued [.stop key]).Lasts (Mute key) s := by
  have hfresh : ∀ id, ¬(withArrows id arrows).Mute key := by
    rintro id ⟨hmusic, -⟩
    cases hmusic
  have hbegun : ∀ id id', ¬((withArrows id arrows).begun id' world).Mute key := by
    rintro id id' ⟨hmusic, -⟩
    cases hmusic
  obtain ⟨t, u, ht, hnot, hstep, hu, hlasts⟩ := h.exists_onset hfresh hbegun hs
  rcases hstep.sounds.mute hu with hmute | ⟨hmusic, hknown, rfl⟩
  · exact absurd hmute hnot
  · exact ⟨t, ht, hmusic, hknown, hlasts⟩

/-- An ambience that was stopped by its name stays mute as long as it is the ambience. -/
theorem Session.Lasts.mute {t : Session} {key : String}
    (h : s.Lasts (fun u => u.player.music = some key) t) (hs : s.Mute key) : t.Mute key := by
  induction h with
  | refl => exact hs
  | tail _ hstep ih => exact hstep.1.sounds.mute_of_mute ih hstep.2.2

/-- **The looping tracks and the ambience.**  In every session nothing is looped but the ambience;
and the ambience is, unless it was stopped by its name: then it is mute until another one is set.
Other tracks are played and stopped without any change to what is looped. -/
theorem Played.inTune_iff (h : Played (fun _ _ => True) arrows world s) :
    (∀ key, s.display.playing.contains key = true → s.player.music = some key) ∧
      (s.InTune ↔ ¬∃ key t, Underway arrows world t ∧ t.player.music = some key ∧
        t.catalog.audio.contains key = true ∧
          (t.cued [.stop key]).Lasts (fun u => u.player.music = some key) s) ∧
      ∀ (run : Script → Play Unit) (a : Action) (key : String) (r : Except Error Unit) (t : Session),
        (∃ config, a.effect = .playAudio key config) ∨
            a.effect = .stopAudio key ∧ s.player.music ≠ some key →
          (Play.perform run a).outcome s = some (r, t) →
            t.display.playing = s.display.playing := by
  have hunder := h.underway
  have hplaying : ∀ key, s.display.playing.contains key = true → s.player.music = some key :=
    fun _ => hunder.music_of_playing
  refine ⟨hplaying, ⟨?_, ?_⟩, ?_⟩
  · rintro htune ⟨key, t, ht, hmusic, -, hlasts⟩
    obtain ⟨hmusic', hsilent⟩ := hlasts.mute (mute_stop hmusic)
    rw [(htune key).2 hmusic'] at hsilent
    cases hsilent
  · intro hnone key
    refine ⟨hplaying key, fun hmusic => ?_⟩
    rcases Bool.eq_false_or_eq_true (s.display.playing.contains key) with hloops | hsilent
    · exact hloops
    · obtain ⟨t, ht, hmusic', hknown, hlasts⟩ := hunder.exists_stop ⟨hmusic, hsilent⟩
      have hkept : (t.cued [.stop key]).Lasts (fun u => u.player.music = some key) s :=
        hlasts.mono fun _ => Mute.music
      exact absurd ⟨key, t, ht, hmusic', hknown, hkept⟩ hnone
  · rintro run a key r t (⟨config, he⟩ | ⟨he, hother⟩) hrun
    · have htrack : a.effect.track? = some key := by rw [he]; rfl
      exact Play.playing_of_track htrack (by simp [he]) (by simp [he]) hrun
    · have htrack : a.effect.track? = some key := by rw [he]; rfl
      have hidle : s.display.playing.contains key = false :=
        Bool.eq_false_iff.2 fun hp => hother (hplaying key hp)
      exact Play.playing_of_track htrack (by simp [he]) (fun _ => hidle) hrun

/-- A world with a beach, where the sound of the waves is the ambience. -/
def World.shore : World where
  stages := [
    { id := "shore"
      scenes := [
        { id := "beach"
          interactive := .ofList [
            ("left", [.new (.stopAudio "waves")]),
            ("right", [.new (.setMusic (some "waves") none)])] }]
      audio := .ofList [("waves", ["waves.ogg"])]
      loadActions := [.new (.setMusic (some "waves") none)] }]

/-- The waves on the beach are silent when they were stopped, and stay so when they are asked for
again. -/
theorem exists_played_shore :
    ∃ s, Played (fun _ _ => True) ["left", "right"] .shore s ∧ s.Mute "waves" := by
  have hstart := @Played.start (fun _ _ => True) ["left", "right"] .shore 4 (.ofNat 0) (.ofNat 1)
    _ _ rfl
  have hready := @Played.call _ _ _ _ _ (.handle (.assetsReady (.issued 0))) 4 _ hstart trivial rfl
  have hstopped := @Played.call _ _ _ _ _ (.handle (.objectClicked "left")) 4 _ hready trivial rfl
  have hasked := @Played.call _ _ _ _ _ (.handle (.objectClicked "right")) 4 _ hstopped trivial rfl
  exact ⟨_, hasked, rfl, rfl⟩

/-- The waves were stopped by their name while they were the ambience. -/
theorem inTune_iff_shore :
    ∃ s, Played (fun _ _ => True) ["left", "right"] .shore s ∧ ¬s.InTune ∧
      ∃ key t, Underway ["left", "right"] .shore t ∧ t.player.music = some key ∧
        (t.cued [.stop key]).Lasts (fun u => u.player.music = some key) s := by
  obtain ⟨s, h, hmute⟩ := exists_played_shore
  have hout : ¬s.InTune := by
    intro htune
    cases ((htune "waves").2 hmute.music).symm.trans hmute.silent
  obtain ⟨key, t, ht, hmusic, -, hlasts⟩ := Classical.not_not.1 (mt h.inTune_iff.2.1.2 hout)
  exact ⟨s, h, hout, key, t, ht, hmusic, hlasts⟩

/-- The ambience is not looped in every session. -/
theorem not_forall_inTune :
    ¬∀ (arrows : List String) (world : World) (s : Session),
      Played (fun _ _ => True) arrows world s → s.InTune := by
  intro hall
  obtain ⟨s, h, hmute⟩ := exists_played_shore
  cases ((hall _ _ s h "waves").2 hmute.music).symm.trans hmute.silent

end

end Adventure
