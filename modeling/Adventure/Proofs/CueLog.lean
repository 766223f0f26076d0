import Adventure.Proofs.Ambience
import Adventure.Proofs.Containment

/-!
# The log of cues

A cue about an object, a background or a track is given only where a session knows it, and a session
knows an object or a background only where a cue has created it.  So the cues come in an order that
the surroundings can follow: what is shown or hidden was created before, nothing is created twice,
and no batch is started twice.

## Main definitions

* `Session.log`: the cues so far
* `Cue.Fits`: a cue declares nothing and needs only what is known
* `Session.Logs`: what a step does to the cues
* `Catalog.Creates c cues d`: the cues create what the catalog `d` knows and `c` does not
* `Session.Filed`: the log agrees with what is known
* `Session.Gives before c s t`: the step from `s` to `t` gives a cue, behind the others
* `Session.CuesInOrder`: the order in which cues come

## Main results

* `Step.logs`: each step is of this kind
* `Underway.filed`, `Underway.exists_gives`: the log between the steps, and where a cue comes from
* `Played.cuesInOrder`: the cues of every session come in order
-/

namespace Adventure

open Session

/-! ## Cues -/

namespace Cue

/-- The object that a cue creates. -/
def created? : Cue → Option String
  | createObject id => some id
  | _ => none

/-- The batch that a cue starts. -/
def batch? : Cue → Option Nat
  | startBatch batch => some batch
  | _ => none

/-- The object that a cue shows or hides. -/
def object? : Cue → Option String
  | showObject id | hideObject id => some id
  | _ => none

/-- The scene whose background a cue shows or hides. -/
def backdrop? : Cue → Option String
  | showBackground scene | hideBackground scene => some scene
  | _ => none

/-- The track that a cue plays, stops or animates. -/
def track? : Cue → Option String
  | play key _ | stop key | animate (.ambience key) _ | cancelAnimation (.ambience key) => some key
  | _ => none

/-- A cue creates an object or a background. -/
def IsCreation : Cue → Prop
  | createObject _ | createBackground .. => True
  | _ => False

/-- A cue creates nothing and starts no batch. -/
def IsPlain (c : Cue) : Prop := ¬c.IsCreation ∧ c.batch? = none

/-- A cue starts no batch and creates nothing, and it needs only what is known. -/
def Fits (c : Catalog) : Cue → Prop
  | showObject id | hideObject id => c.objects.contains id = true
  | showBackground scene | hideBackground scene => c.backgrounds.contains scene = true
  | play key _ | stop key | animate (.ambience key) _ | cancelAnimation (.ambience key) =>
    c.audio.contains key = true
  | createObject _ | createBackground .. | startBatch _ => False
  | animate .fade _ | cancelAnimation .fade | requestImage .. | requestAudio .. | showMessage ..
  | hideMessage | showCodeInput .. | hideCodeInput | clearCodeInput | showLoading | hideLoading
  | redirect _ | after .. => True

variable {c : Catalog} {cue : Cue}

theorem Fits.created? (h : cue.Fits c) : cue.created? = none := by
  cases cue <;> first | rfl | cases h

theorem Fits.batch? (h : cue.Fits c) : cue.batch? = none := by
  cases cue <;> first | rfl | cases h

theorem IsCreation.batch? (h : cue.IsCreation) : cue.batch? = none := by
  cases cue <;> first | rfl | cases h

theorem isPlain_of_object? {id : String} (h : cue.object? = some id) : cue.IsPlain := by
  cases cue <;> cases h <;> exact ⟨False.elim, rfl⟩

theorem isPlain_of_backdrop? {scene : String} (h : cue.backdrop? = some scene) : cue.IsPlain := by
  cases cue <;> cases h <;> exact ⟨False.elim, rfl⟩

theorem isPlain_of_track? {key : String} (h : cue.track? = some key) : cue.IsPlain := by
  cases cue <;> first | exact ⟨False.elim, rfl⟩ | cases h

theorem Fits.of_object? (h : cue.Fits c) {id : String} (hid : cue.object? = some id) :
    c.objects.contains id = true := by
  cases cue <;> cases hid <;> exact h

theorem Fits.of_backdrop? (h : cue.Fits c) {scene : String} (hs : cue.backdrop? = some scene) :
    c.backgrounds.contains scene = true := by
  cases cue <;> cases hs <;> exact h

theorem Fits.of_track? (h : cue.Fits c) {key : String} (hk : cue.track? = some key) :
    c.audio.contains key = true := by
  cases cue with
  | animate target | cancelAnimation target =>
    cases target with
    | fade => cases hk
    | ambience track =>
      cases hk
      exact h
  | play | stop =>
    cases hk
    exact h
  | _ => cases hk

end Cue

namespace Session

/-- The cues so far, the oldest first. -/
def log (s : Session) : List Cue := s.display.cues.toList

variable {s t u : Session}

theorem log_foldl_perform (cues : List Cue) (d : Display) :
    (cues.foldl Display.perform d).cues.toList = d.cues.toList ++ cues := by
  induction cues generalizing d with
  | nil => simp
  | cons c cues ih =>
    have hc : (d.perform c).cues = d.cues.push c := rfl
    rw [List.foldl_cons, ih, hc, Array.toList_push, List.append_assoc]
    rfl

theorem log_cued (s : Session) (cues : List Cue) : (s.cued cues).log = s.log ++ cues :=
  log_foldl_perform cues s.display

/-! ## Cues that fit -/

/-- From one session to another one, only cues that fit were given, and no more is known. -/
structure Shows (s t : Session) : Prop where
  log : ∃ cues, t.log = s.log ++ cues ∧ ∀ c ∈ cues, c.Fits s.catalog
  catalog : t.catalog = s.catalog
  batchCount : t.batchCount = s.batchCount

theorem Shows.of_eq (hd : t.log = s.log) (hc : t.catalog = s.catalog)
    (hb : t.batchCount = s.batchCount) : s.Shows t :=
  ⟨⟨[], by simp [hd], nofun⟩, hc, hb⟩

theorem Shows.trans (h : s.Shows t) (h' : t.Shows u) : s.Shows u := by
  obtain ⟨cues, hlog, hfits⟩ := h.log
  obtain ⟨cues', hlog', hfits'⟩ := h'.log
  refine ⟨⟨cues ++ cues', by rw [hlog', hlog, List.append_assoc], fun c hc => ?_⟩,
    h'.catalog.trans h.catalog, h'.batchCount.trans h.batchCount⟩
  rcases List.mem_append.1 hc with hc | hc
  · exact hfits c hc
  · exact h.catalog ▸ hfits' c hc

/-- Some cues that fit, whatever else was changed about the session. -/
theorem Shows.of_cues {cues : List Cue} (hlog : t.log = s.log ++ cues)
    (hfits : ∀ c ∈ cues, c.Fits s.catalog) (hc : t.catalog = s.catalog)
    (hb : t.batchCount = s.batchCount) : s.Shows t :=
  ⟨⟨cues, hlog, hfits⟩, hc, hb⟩

theorem Shows.cued {cues : List Cue} (hfits : ∀ c ∈ cues, c.Fits s.catalog) :
    s.Shows (s.cued cues) :=
  .of_cues (log_cued s cues) hfits rfl rfl

theorem fits_hidingCues (s : Session) (keepArrows : Bool) :
    ∀ c ∈ s.hidingCues keepArrows, c.Fits s.catalog := by
  intro c hc
  unfold hidingCues at hc
  split at hc
  · rcases List.mem_append.1 hc with hc | hc
    · -- Of the objects of a scene only those that are known are hidden.
      obtain ⟨id, hid, rfl⟩ := List.mem_map.1 hc
      obtain ⟨-, hknown⟩ := List.mem_filter.1 hid
      cases hobject : s.catalog.objects.get? id with
      | none => simp [hobject] at hknown
      | some object => exact Table.contains_of_get? hobject
    · split at hc
      · rw [List.mem_singleton.1 hc]
        trivial
      · cases hc
  · cases hc

theorem fits_backdropCues (s : Session) (cue : String → Cue) (id : String)
    (hcue : s.catalog.backgrounds.contains id = true → (cue id).Fits s.catalog) :
    ∀ c ∈ s.backdropCues cue id, c.Fits s.catalog := by
  intro c hc
  unfold Session.backdropCues at hc
  split at hc
  · next hknown =>
    rw [List.mem_singleton.1 hc]
    exact hcue hknown
  · cases hc

/-- Only objects that are known are planned to be shown or hidden. -/
theorem contains_of_plan {plan : List (String × Bool)} (h : s.plan? = .ok plan) :
    ∀ e ∈ plan, s.catalog.objects.contains e.1 = true := by
  unfold plan? at h
  cases hhere : s.here? with
  | none =>
    rw [hhere] at h
    cases h
    nofun
  | some scene =>
    rw [hhere] at h
    -- The look-up of each object comes first.
    have hknown : plan.Forall₂ (fun e _ => s.catalog.objects.contains e.1 = true ∧ True)
        scene.interactive.entries := by
      refine (forall₂_of_mapM_eq_ok h).flip.imp fun e entry hentry => ?_
      obtain ⟨object, hobject, hentry⟩ := bind_eq_ok_iff.1 hentry
      obtain ⟨active, -, hentry⟩ := bind_eq_ok_iff.1 hentry
      cases hentry
      exact ⟨Table.contains_of_get? (Catalog.look_ok_iff.1 hobject), trivial⟩
    exact ((List.forall₂_and_left _ _).1 hknown).1

theorem fits_planCues {plan : List (String × Bool)} (h : s.plan? = .ok plan) :
    ∀ c ∈ planCues plan, c.Fits s.catalog := by
  intro c hc
  obtain ⟨e, he, rfl⟩ := List.mem_map.1 hc
  have hknown := contains_of_plan h e he
  split <;> exact hknown

theorem fits_inputCues (s : Session) : ∀ c ∈ s.inputCues, c.Fits s.catalog := by
  intro c hc
  unfold inputCues at hc
  split at hc
  · rw [List.mem_singleton.1 hc]
    trivial
  · cases hc

theorem fits_coverCues (s : Session) : ∀ c ∈ s.coverCues, c.Fits s.catalog := by
  unfold coverCues
  split
  · exact fits_hidingCues s false
  · split
    · exact fits_hidingCues s true
    · nofun

theorem fits_leavingCues (s : Session) : ∀ c ∈ s.leavingCues, c.Fits s.catalog := by
  unfold leavingCues
  split
  · next id hid =>
    intro c hc
    rcases List.mem_append.1 hc with hc | hc
    · exact fits_hidingCues s false c hc
    · exact fits_backdropCues s .hideBackground id (fun h => h) c hc
  · nofun

theorem fits_musicCues {audio : Option String}
    (hmusic : ∀ key, s.player.music = some key → s.catalog.audio.contains key = true)
    (haudio : ∀ key, audio = some key → s.catalog.audio.contains key = true) :
    ∀ c ∈ s.musicCues audio, c.Fits s.catalog := by
  intro c hc
  unfold musicCues at hc
  rcases List.mem_append.1 hc with hc | hc
  · obtain ⟨key, hkey, rfl⟩ := Option.map_eq_some_iff.1 (Option.mem_toList.1 hc)
    exact hmusic key hkey
  · obtain ⟨key, hkey, rfl⟩ := Option.map_eq_some_iff.1 (Option.mem_toList.1 hc)
    exact haudio key hkey

theorem fits_assetCues (s : Session) (stage : Stage) (c : Catalog) :
    ∀ cue ∈ s.assetCues stage, cue.Fits c := by
  intro cue hcue
  unfold assetCues at hcue
  rcases List.mem_append.1 hcue with hcue | hcue
  · obtain ⟨scene, -, hcue⟩ := List.mem_flatMap.1 hcue
    unfold imageCues at hcue
    split at hcue
    · rw [List.mem_singleton.1 hcue]
      trivial
    · cases hcue
  · obtain ⟨e, -, hcue⟩ := List.mem_flatMap.1 hcue
    unfold trackCues at hcue
    split at hcue
    · cases hcue
    · rw [List.mem_singleton.1 hcue]
      trivial

theorem fits_endingCues (s : Session) (c : Catalog) : ∀ cue ∈ s.endingCues, cue.Fits c := by
  intro cue hcue
  unfold endingCues at hcue
  split at hcue
  · rw [List.mem_singleton.1 hcue]
    trivial
  · cases hcue

/-! ## What steps do to the log -/

theorem Shows.refl (s : Session) : s.Shows s := .of_eq rfl rfl rfl

theorem shows_hidden (s : Session) (keepArrows : Bool) : s.Shows (s.hidden keepArrows) :=
  .cued (fits_hidingCues s keepArrows)

theorem shows_shown {plan : List (String × Bool)} (h : s.plan? = .ok plan) :
    s.Shows (s.shown plan) :=
  .cued (List.forall_mem_append.2 ⟨fits_planCues h, fits_inputCues s⟩)

theorem shows_left (s : Session) : s.Shows s.left :=
  .of_cues (log_cued _ _) (fits_leavingCues s) rfl rfl

theorem shows_arrived (s : Session) (id : String) : s.Shows (s.arrived id) :=
  .of_cues (log_cued _ _) (fits_backdropCues s .showBackground id fun h => h) rfl rfl

theorem shows_entered {plan : List (String × Bool)} (h : s.plan? = .ok plan) (id : String)
    (first : Bool) : s.Shows (s.entered id plan first) :=
  (shows_shown h).trans (.of_cues (log_cued _ _) (fits_coverCues s) rfl rfl)

theorem shows_noticed (s : Session) (text : String) : s.Shows (s.noticed text) :=
  .of_cues (log_cued _ _) (List.forall_mem_cons.2 ⟨trivial, fits_hidingCues s true⟩) rfl rfl

theorem shows_blocked (s : Session) (text : String) (buttons : List String)
    (scripts : List Script) : s.Shows (s.blocked text buttons scripts) :=
  .of_cues (log_cued _ _) (List.forall_mem_cons.2 ⟨trivial, fits_hidingCues s false⟩) rfl rfl

theorem shows_noticeClosed (s : Session) : s.Shows s.noticeClosed :=
  .of_cues (log_cued _ _) (List.forall_mem_singleton.2 trivial) rfl rfl

theorem shows_answered (s : Session) : s.Shows s.answered :=
  .of_cues (log_cued _ _) (List.forall_mem_singleton.2 trivial) rfl rfl

theorem shows_solved (s : Session) (puzzle code : String) : s.Shows (s.solved puzzle code) :=
  .of_cues (log_cued _ _) (fits_inputCues _) rfl rfl

theorem shows_requested (s : Session) (id : String) : s.Shows (s.requested id) :=
  .of_cues (log_cued _ _) (List.forall_mem_singleton.2 trivial) rfl rfl

theorem shows_tuned {audio : Option String}
    (hmusic : ∀ key, s.player.music = some key → s.catalog.audio.contains key = true)
    (haudio : ∀ key, audio = some key → s.catalog.audio.contains key = true) :
    s.Shows (s.tuned audio) :=
  .of_cues (log_cued _ _) (fits_musicCues hmusic haudio) rfl rfl

theorem shows_scheduled (s : Session) (duration : Duration) (script : Script) :
    s.Shows (s.scheduled duration script) :=
  .of_cues (log_cued _ _) (List.forall_mem_singleton.2 trivial) rfl rfl

/-- What a step does to the log: it gives cues that fit, and behind them a batch may be started or
a stage may become known. -/
inductive Logs (s : Session) : Session → Prop where
  | shows {t : Session} (h : s.Shows t) : Logs s t
  | batch {t : Session} (h : s.Shows t) (stage : Stage) : Logs s (t.preloading stage)
  | learn {t : Session} (h : s.Shows t) (stage : Stage) (scenes : List Scene) :
      Logs s (t.finished stage scenes)

end Session

section Steps

variable {P : Policy} {s t : Session} {e : Error} {stage : String}

theorem Asked.shows (h : Asked P s stage t) : s.Shows t := by
  cases h with
  | direct => exact .refl s
  | code => exact shows_solved s _ _

theorem Move.logs (h : Move P s t)
    (hmusic : ∀ key, s.player.music = some key → s.catalog.audio.contains key = true) :
    s.Logs t := by
  cases h with
  | enter _ _ _ _ hplan =>
    exact .shows (((shows_left s).trans (shows_arrived _ _)).trans (shows_entered hplan _ _))
  | hide => exact .shows (shows_hidden s false)
  | notice text => exact .shows (shows_noticed s text)
  | block text => exact .shows (shows_blocked s text _ _)
  | close _ hplan => exact .shows ((shows_noticeClosed s).trans (shows_shown hplan))
  | answer _ hplan => exact .shows ((shows_answered s).trans (shows_shown hplan))
  | fade =>
    exact .shows (.cued
      (List.forall_mem_cons.2 ⟨trivial, List.forall_mem_singleton.2 trivial⟩))
  | swell tween h => exact .shows (.cued (List.forall_mem_singleton.2 (hmusic _ h)))
  | play h | stop h => exact .shows (.cued (List.forall_mem_singleton.2 h))
  | redirect | clear => exact .shows (.cued (List.forall_mem_singleton.2 trivial))
  | tune _ h => exact .shows (shows_tuned hmusic h)
  | schedule => exact .shows (shows_scheduled s _ _)
  | preload h => exact .batch (h.shows.trans (shows_requested _ _)) _
  | load h => exact .learn (h.shows.trans (shows_requested _ _)) _ _
  | @complete batch =>
    have hreported : s.Shows (s.reported batch) := .of_eq rfl rfl rfl
    exact .learn hreported _ _
  | assign | increment | fire | queue | reportBatches | reportTimers =>
    exact .shows (.of_eq rfl rfl rfl)

theorem Halt.shows (h : Halt P s e t) : s.Shows t := by
  cases h with
  | strand => exact (shows_left s).trans (shows_arrived _ _)
  | close => exact shows_noticeClosed s
  | answer => exact shows_answered s
  | unstaged h => exact h.shows
  | unresolved h => exact h.shows.trans (shows_requested _ _)
  | reject | incomplete => exact .of_eq rfl rfl rfl

end Steps

/-! ## What is created -/

namespace Catalog

/-- Some cues create each object that a catalog knows and another one does not, and no other one,
and all backgrounds that are new. -/
structure Creates (c : Catalog) (cues : List Cue) (d : Catalog) : Prop where
  nodup : (cues.filterMap Cue.created?).Nodup
  unknown : ∀ id ∈ cues.filterMap Cue.created?, c.objects.contains id = false
  objects : ∀ id, d.objects.contains id = true ↔
    c.objects.contains id = true ∨ id ∈ cues.filterMap Cue.created?
  backdrops : ∀ id, d.backgrounds.contains id = true →
    c.backgrounds.contains id = true ∨ ∃ url, .createBackground id url ∈ cues

variable {c d e : Catalog} {cues cues' : List Cue}

/-- Cues that create no object, where no object and no background is new. -/
theorem Creates.of_eq (ho : d.objects = c.objects) (hb : d.backgrounds = c.backgrounds)
    (hcues : ∀ cue ∈ cues, cue.created? = none) : c.Creates cues d := by
  have hnone : cues.filterMap Cue.created? = [] := List.filterMap_eq_nil_iff.2 hcues
  refine ⟨?_, ?_, ?_, ?_⟩
  · rw [hnone]
    exact .nil
  · rw [hnone]
    nofun
  · intro id
    simp [hnone, ho]
  · intro id hid
    exact .inl (hb ▸ hid)

theorem Creates.trans (h : c.Creates cues d) (h' : d.Creates cues' e) :
    c.Creates (cues ++ cues') e where
  nodup := by
    rw [List.filterMap_append, List.nodup_append]
    refine ⟨h.nodup, h'.nodup, ?_⟩
    rintro id hid _ hid' rfl
    have hknown := (h.objects id).2 (.inr hid)
    rw [h'.unknown id hid'] at hknown
    cases hknown
  unknown := by
    intro id hid
    rw [List.filterMap_append, List.mem_append] at hid
    rcases hid with hid | hid
    · exact h.unknown id hid
    · cases hc : c.objects.contains id with
      | false => rfl
      | true =>
        have hknown := (h.objects id).2 (.inl hc)
        rw [h'.unknown id hid] at hknown
        cases hknown
  objects id := by
    rw [h'.objects, h.objects, List.filterMap_append, List.mem_append, or_assoc]
  backdrops id hid := by
    rcases h'.backdrops id hid with hid | ⟨url, hurl⟩
    · rcases h.backdrops id hid with hid | ⟨url, hurl⟩
      · exact .inl hid
      · exact .inr ⟨url, List.mem_append_left _ hurl⟩
    · exact .inr ⟨url, List.mem_append_right _ hurl⟩

/-- An object becomes known that was not. -/
theorem creates_addObject (object : Object) (h : c.objects.contains object.id = false) :
    c.Creates [.createObject object.id] (c.addObject object) where
  nodup := List.nodup_singleton _
  unknown := by
    intro id hid
    rw [List.mem_singleton.1 hid]
    exact h
  objects id := by
    show (c.objects.insertNew object.id object).contains id = true ↔ _
    rw [Table.contains_insertNew]
    simp [Cue.created?, or_comm]
  backdrops id := .inl

theorem creates_addArrows {arrows : List String} (hnodup : arrows.Nodup)
    (h : ∀ id ∈ arrows, c.objects.contains id = false) :
    c.Creates (arrows.map .createObject) (c.addArrows arrows) := by
  induction arrows generalizing c with
  | nil => exact .of_eq rfl rfl nofun
  | cons id arrows ih =>
    obtain ⟨hid, hnodup⟩ := List.nodup_cons.1 hnodup
    have hrest : ∀ other ∈ arrows, (c.addObject (.arrow id)).objects.contains other = false := by
      intro other hother
      have hne : other ≠ id := fun heq => hid (heq ▸ hother)
      have hnew : (c.objects.insertNew id (.arrow id)).contains other = false := by
        simp [hne, h other (.tail _ hother)]
      exact hnew
    exact (creates_addObject (.arrow id) (h id (.head _))).trans (ih hnodup hrest)

theorem creates_addHotspots (areas : List Hotspot) :
    c.Creates (c.hotspotCues areas) (c.addHotspots areas) := by
  induction areas generalizing c with
  | nil => exact .of_eq rfl rfl nofun
  | cons area areas ih =>
    refine Creates.trans (d := c.addObject (.hotspot area)) ?_ ih
    cases hknown : c.objects.contains area.id with
    | false => exact creates_addObject (.hotspot area) hknown
    | true =>
      -- An object that is known stays as it is.
      have hsame : c.objects.insertNew area.id (.hotspot area) = c.objects := if_pos hknown
      exact .of_eq hsame rfl nofun

theorem creates_addBackdrop (scene : Scene) :
    c.Creates (c.backdropCues scene) (c.addBackdrop scene) := by
  unfold backdropCues addBackdrop
  cases hfile : scene.background with
  | none => exact .of_eq rfl rfl nofun
  | some file =>
    refine ⟨.nil, nofun, fun id => (or_iff_left (List.not_mem_nil)).symm, fun id hid => ?_⟩
    have hinsert : (c.backgrounds.insert scene.id (c.parameters.backgroundUrl file)).contains id =
      true := hid
    rw [Table.contains_insert, Bool.or_eq_true, decide_eq_true_iff] at hinsert
    rcases hinsert with rfl | hknown
    · exact .inr ⟨_, .head _⟩
    · exact .inl hknown

theorem creates_learn (scene : Scene) :
    c.Creates (c.hotspotCues scene.hotspots ++ (c.addHotspots scene.hotspots).backdropCues scene)
      (c.learn scene) := by
  have hscene : ((c.addHotspots scene.hotspots).addBackdrop scene).Creates [] (c.learn scene) := by
    refine .of_eq ?_ ?_ nofun <;> rw [learn, addScene, addProcedures_eq]
  have hcreates :=
    ((creates_addHotspots scene.hotspots).trans (creates_addBackdrop scene)).trans hscene
  rwa [List.append_nil] at hcreates

/-- **The cues of a stage** create what becomes known with it. -/
theorem creates_learnAll (scenes : List Scene) (audio : Table (List String)) :
    c.Creates (c.creationCues scenes) (c.learnAll scenes audio) := by
  have hscenes : c.Creates (c.creationCues scenes) (scenes.foldl learn c) := by
    induction scenes generalizing c with
    | nil => exact .of_eq rfl rfl nofun
    | cons scene scenes ih => exact (creates_learn scene).trans ih
  have htracks : (scenes.foldl learn c).Creates [] (c.learnAll scenes audio) := by
    refine .of_eq ?_ ?_ nofun <;> rw [learnAll, addTracks_eq]
  have hcreates := hscenes.trans htracks
  rwa [List.append_nil] at hcreates

theorem isCreation_hotspotCues (c : Catalog) (areas : List Hotspot) :
    ∀ cue ∈ c.hotspotCues areas, cue.IsCreation := by
  induction areas generalizing c with
  | nil => nofun
  | cons area areas ih =>
    refine List.forall_mem_append.2 ⟨fun cue hcue => ?_, ih _⟩
    split at hcue
    · cases hcue
    · rw [List.mem_singleton.1 hcue]
      trivial

theorem isCreation_creationCues (c : Catalog) (scenes : List Scene) :
    ∀ cue ∈ c.creationCues scenes, cue.IsCreation := by
  induction scenes generalizing c with
  | nil => nofun
  | cons scene scenes ih =>
    refine List.forall_mem_append.2 ⟨List.forall_mem_append.2
      ⟨isCreation_hotspotCues c scene.hotspots, fun cue hcue => ?_⟩, ih _⟩
    unfold backdropCues at hcue
    split at hcue
    · rw [List.mem_singleton.1 hcue]
      trivial
    · cases hcue

end Catalog

/-! ## What the log agrees with -/

namespace Session

variable {s t : Session}

/-- The log agrees with what is known: each object that is known was created, once, and no other
one; each background that is known was created; and batches were started in the order of their
numbers. -/
structure Filed (s : Session) : Prop where
  nodup : (s.log.filterMap Cue.created?).Nodup
  objects : ∀ id, s.catalog.objects.contains id = true ↔ id ∈ s.log.filterMap Cue.created?
  backdrops : ∀ id, s.catalog.backgrounds.contains id = true →
    ∃ url, .createBackground id url ∈ s.log
  batches : s.log.filterMap Cue.batch? = List.range s.batchCount

/-- Cues that create what becomes known, and start no batch. -/
theorem Filed.creates (hs : s.Filed) {cues : List Cue} (hlog : t.log = s.log ++ cues)
    (hcreates : s.catalog.Creates cues t.catalog) (hcues : ∀ c ∈ cues, c.batch? = none)
    (hb : t.batchCount = s.batchCount) : t.Filed where
  nodup := by
    rw [hlog, List.filterMap_append, List.nodup_append]
    refine ⟨hs.nodup, hcreates.nodup, ?_⟩
    rintro id hid _ hid' rfl
    have hknown := (hs.objects id).2 hid
    rw [hcreates.unknown id hid'] at hknown
    cases hknown
  objects id := by
    rw [hcreates.objects, hs.objects, hlog, List.filterMap_append, List.mem_append]
  backdrops id hid := by
    rw [hlog]
    rcases hcreates.backdrops id hid with hid | ⟨url, hurl⟩
    · obtain ⟨url, hurl⟩ := hs.backdrops id hid
      exact ⟨url, List.mem_append_left _ hurl⟩
    · exact ⟨url, List.mem_append_right _ hurl⟩
  batches := by
    rw [hlog, List.filterMap_append, List.filterMap_eq_nil_iff.2 hcues, List.append_nil, hb]
    exact hs.batches

theorem Filed.shows (hs : s.Filed) (h : s.Shows t) : t.Filed := by
  obtain ⟨cues, hlog, hfits⟩ := h.log
  refine hs.creates hlog ?_ (fun c hc => (hfits c hc).batch?) h.batchCount
  rw [h.catalog]
  exact .of_eq rfl rfl fun c hc => (hfits c hc).created?

theorem log_preloading (s : Session) (stage : Stage) :
    (s.preloading stage).log = s.log ++ (s.assetCues stage ++ [.startBatch s.batchCount]) :=
  log_cued _ _

theorem log_finished (s : Session) (stage : Stage) (scenes : List Scene) :
    (s.finished stage scenes).log = s.log ++ (s.catalog.creationCues scenes ++ s.endingCues) := by
  unfold log
  rw [display_finished, log_foldl_perform]

theorem Filed.preloading (hs : s.Filed) (stage : Stage) : (s.preloading stage).Filed := by
  -- The requests come first, and then the batch under the next number.
  have hrequests : (s.cued (s.assetCues stage)).Filed :=
    hs.shows (.cued (fits_assetCues s stage s.catalog))
  have hlog : (s.preloading stage).log =
      (s.cued (s.assetCues stage)).log ++ [.startBatch s.batchCount] := by
    rw [log_preloading, log_cued, List.append_assoc]
  have hcreated : (s.preloading stage).log.filterMap Cue.created? =
      (s.cued (s.assetCues stage)).log.filterMap Cue.created? := by
    rw [hlog, List.filterMap_append]
    exact List.append_nil _
  refine ⟨hcreated ▸ hrequests.nodup, fun id => hcreated ▸ hrequests.objects id, ?_, ?_⟩
  · intro id hid
    obtain ⟨url, hurl⟩ := hrequests.backdrops id hid
    exact ⟨url, hlog ▸ List.mem_append_left _ hurl⟩
  · rw [hlog, List.filterMap_append, hrequests.batches]
    exact List.range_succ.symm

theorem Filed.finished (hs : s.Filed) (stage : Stage) (scenes : List Scene) :
    (s.finished stage scenes).Filed := by
  have hending : (s.catalog.learnAll scenes stage.audio).Creates s.endingCues
      (s.catalog.learnAll scenes stage.audio) :=
    .of_eq rfl rfl fun c hc => (fits_endingCues s s.catalog c hc).created?
  refine hs.creates (log_finished s stage scenes)
    ((Catalog.creates_learnAll scenes stage.audio).trans hending) ?_ rfl
  exact List.forall_mem_append.2
    ⟨fun c hc => (Catalog.isCreation_creationCues _ _ c hc).batch?,
      fun c hc => (fits_endingCues s s.catalog c hc).batch?⟩

theorem Filed.logs (hs : s.Filed) (h : s.Logs t) : t.Filed := by
  cases h with
  | shows h => exact hs.shows h
  | batch h stage => exact (hs.shows h).preloading stage
  | learn h stage scenes => exact (hs.shows h).finished stage scenes

theorem filed_withArrows (id : Uuid) (arrows : List String) : (withArrows id arrows).Filed :=
  ⟨.nil, fun _ => ⟨nofun, nofun⟩, nofun, rfl⟩

theorem log_begun (s : Session) (id : Uuid) (world : World) :
    (s.begun id world).log = s.log ++ s.arrows.map .createObject :=
  log_foldl_perform _ _

theorem filed_begun {arrows : List String} (h : arrows.Nodup) (id id' : Uuid) (world : World) :
    ((withArrows id arrows).begun id' world).Filed := by
  have hcreates : ({ parameters := world.parameters } : Catalog).Creates
      (arrows.map .createObject)
      (({ parameters := world.parameters } : Catalog).addArrows arrows) :=
    Catalog.creates_addArrows h fun _ _ => rfl
  refine (filed_withArrows id arrows).creates (log_begun _ id' world) ?_ ?_ rfl
  · exact ⟨hcreates.nodup, hcreates.unknown, hcreates.objects, hcreates.backdrops⟩
  · intro c hc
    obtain ⟨arrow, -, rfl⟩ := List.mem_map.1 hc
    rfl

end Session

/-! ## Where cues come from -/

section

variable {arrows : List String} {world : World} {s t : Session} {before after : List Cue} {c : Cue}

theorem Session.Step.logs (h : s.Step t)
    (hmusic : ∀ key, s.player.music = some key → s.catalog.audio.contains key = true) :
    s.Logs t := by
  cases h with
  | move h => exact h.logs hmusic
  | halt h => exact .shows h.shows

/-- **The cues of a step** fit what is known before it, or create something, or start the next
batch, which waits then. -/
theorem Session.Logs.exists_cues (h : s.Logs t) :
    ∃ cues, t.log = s.log ++ cues ∧ ∀ c ∈ cues, c.Fits s.catalog ∨ c.IsCreation ∨
      c = .startBatch s.batchCount ∧ s.batchCount ∈ t.pendingLoads.map Prod.fst := by
  cases h with
  | shows h =>
    obtain ⟨cues, hlog, hfits⟩ := h.log
    exact ⟨cues, hlog, fun c hc => .inl (hfits c hc)⟩
  | @batch u h stage =>
    obtain ⟨cues, hlog, hfits⟩ := h.log
    refine ⟨cues ++ (u.assetCues stage ++ [.startBatch u.batchCount]), ?_, ?_⟩
    · rw [log_preloading, hlog, List.append_assoc]
    · refine List.forall_mem_append.2 ⟨fun c hc => .inl (hfits c hc), List.forall_mem_append.2
        ⟨fun c hc => .inl (fits_assetCues u stage _ c hc), List.forall_mem_singleton.2 ?_⟩⟩
      rw [h.batchCount]
      exact .inr (.inr ⟨rfl, by simp [preloading, h.batchCount]⟩)
  | @learn u h stage scenes =>
    obtain ⟨cues, hlog, hfits⟩ := h.log
    refine ⟨cues ++ (u.catalog.creationCues scenes ++ u.endingCues), ?_, ?_⟩
    · rw [log_finished, hlog, List.append_assoc]
    · exact List.forall_mem_append.2 ⟨fun c hc => .inl (hfits c hc), List.forall_mem_append.2
        ⟨fun c hc => .inr (.inl (Catalog.isCreation_creationCues _ _ c hc)),
          fun c hc => .inl (fits_endingCues u _ c hc)⟩⟩

/-- A step gives a cue, behind the cues that were given before. -/
structure Session.Gives (before : List Cue) (c : Cue) (s t : Session) : Prop where
  step : s.Step t
  log_before : s.log <+: before
  log_after : before ++ [c] <+: t.log

theorem Session.Gives.mem {cues : List Cue} (h : Gives before c s t)
    (hlog : t.log = s.log ++ cues) : c ∈ cues := by
  obtain ⟨given, rfl⟩ := h.log_before
  obtain ⟨rest, hrest⟩ := h.log_after
  rw [hlog, List.append_assoc, List.append_assoc, List.append_cancel_left_eq] at hrest
  rw [← hrest]
  simp

namespace Underway

theorem logs (h : Underway arrows world s) (hstep : s.Step t) : s.Logs t :=
  hstep.logs fun _ => h.music_known

/-- **The log agrees with what is known**, between all steps. -/
theorem filed (harrows : arrows.Nodup) (h : Underway arrows world s) : s.Filed :=
  h.invariant (fun id => filed_withArrows id arrows)
    (fun id id' => filed_begun harrows id id' world) fun h hs hstep => hs.logs (h.logs hstep)

/-- **Where a cue comes from**: one of the steps gave it, unless it creates an arrow. -/
theorem exists_gives (h : Underway arrows world s) (hlog : s.log = before ++ c :: after)
    (hc : c.created? = none) :
    ∃ t u, Underway arrows world t ∧ Gives before c t u ∧ u.Leads s := by
  induction h generalizing after with
  | fresh id =>
    have hempty : (withArrows id arrows).log = [] := rfl
    rw [hempty] at hlog
    cases before <;> cases hlog
  | begun id id' =>
    -- Only arrows were created until then.
    have harrows : ((withArrows id arrows).begun id' world).log = arrows.map .createObject :=
      log_begun (withArrows id arrows) id' world
    have hmem : c ∈ arrows.map Cue.createObject := by
      rw [← harrows, hlog]
      simp
    obtain ⟨arrow, -, rfl⟩ := List.mem_map.1 hmem
    cases hc
  | @step s t hs hstep ih =>
    obtain ⟨cues, hcues, -⟩ := (hs.logs hstep).exists_cues
    have hgiven : before ++ [c] <+: t.log := ⟨after, by simp [hlog]⟩
    have hprefix : s.log <+: t.log := ⟨cues, hcues.symm⟩
    rcases Nat.lt_or_ge before.length s.log.length with hlt | hge
    · -- The cue was given before this step.
      obtain ⟨after', hafter⟩ := List.prefix_of_prefix_length_le hgiven hprefix
        (by rw [List.length_append]; exact hlt)
      obtain ⟨first, next, hfirst, hgives, hleads⟩ := ih (by simpa using hafter.symm)
      exact ⟨first, next, hfirst, hgives, hleads.tail hstep⟩
    · have hbefore : before <+: t.log := (List.prefix_append _ _).trans hgiven
      exact ⟨s, t, hs, ⟨hstep, List.prefix_of_prefix_length_le hprefix hbefore hge, hgiven⟩, .refl⟩

end Underway

/-! ## The order of cues -/

/-- **Cues come in order.**  No object is created twice.  What is shown or hidden was created
before.  A track is played, stopped or animated in a step that begins and ends with the track known.
A batch is started once, in a step after which it waits. -/
structure Session.CuesInOrder (arrows : List String) (world : World) (s : Session) : Prop where
  created : (s.log.filterMap Cue.created?).Nodup
  objects : ∀ before c after, s.log = before ++ c :: after →
    ∀ id, c.object? = some id → .createObject id ∈ before
  backdrops : ∀ before c after, s.log = before ++ c :: after →
    ∀ scene, c.backdrop? = some scene → ∃ url, .createBackground scene url ∈ before
  tracks : ∀ before c after, s.log = before ++ c :: after → ∀ key, c.track? = some key →
    ∃ t u, Underway arrows world t ∧ Gives before c t u ∧ u.Leads s ∧
      t.catalog.audio.contains key = true ∧ u.catalog.audio.contains key = true
  batches : ∀ before c after, s.log = before ++ c :: after → ∀ batch, c.batch? = some batch →
    .startBatch batch ∉ before ∧
    ∃ t u, Underway arrows world t ∧ Gives before c t u ∧ u.Leads s ∧
      batch ∈ u.pendingLoads.map Prod.fst

/-- A cue that neither creates anything nor starts a batch fits what is known before its step. -/
theorem Underway.exists_fits (h : Underway arrows world s) (hlog : s.log = before ++ c :: after)
    (hc : c.IsPlain) :
    ∃ t u, Underway arrows world t ∧ Gives before c t u ∧ u.Leads s ∧ c.Fits t.catalog := by
  have hcreated : c.created? = none := by
    cases c <;> first | rfl | exact absurd trivial hc.1
  obtain ⟨t, u, ht, hgives, hleads⟩ := h.exists_gives hlog hcreated
  obtain ⟨cues, hcues, hkinds⟩ := (ht.logs hgives.step).exists_cues
  rcases hkinds c (hgives.mem hcues) with hfits | hcreation | ⟨rfl, -⟩
  · exact ⟨t, u, ht, hgives, hleads, hfits⟩
  · exact absurd hcreation hc.1
  · cases hc.2

/-- **The cues of every session come in order**, whatever it was called with and however the calls
ended, if no arrow is given twice. -/
theorem Played.cuesInOrder (harrows : arrows.Nodup) (h : Played (fun _ _ => True) arrows world s) :
    s.CuesInOrder arrows world where
  created := (h.underway.filed harrows).nodup
  objects before c after hlog id hid := by
    obtain ⟨t, u, ht, hgives, -, hfits⟩ := h.underway.exists_fits hlog (Cue.isPlain_of_object? hid)
    -- The object is known before the step, so it was created then.
    have hmem := ((ht.filed harrows).objects id).1 (hfits.of_object? hid)
    obtain ⟨creation, hcreation, hc⟩ := List.mem_filterMap.1 hmem
    have heq : creation = .createObject id := by
      cases creation <;> cases hc
      rfl
    exact hgives.log_before.subset (heq ▸ hcreation)
  backdrops before c after hlog scene hscene := by
    obtain ⟨t, u, ht, hgives, -, hfits⟩ :=
      h.underway.exists_fits hlog (Cue.isPlain_of_backdrop? hscene)
    obtain ⟨url, hurl⟩ := (ht.filed harrows).backdrops scene (hfits.of_backdrop? hscene)
    exact ⟨url, hgives.log_before.subset hurl⟩
  tracks before c after hlog key hkey := by
    obtain ⟨t, u, ht, hgives, hleads, hfits⟩ :=
      h.underway.exists_fits hlog (Cue.isPlain_of_track? hkey)
    have hknown := hfits.of_track? hkey
    exact ⟨t, u, ht, hgives, hleads, hknown,
      hgives.step.extends.catalog.contains_audio hknown⟩
  batches before c after hlog batch hbatch := by
    have hc : c = .startBatch batch := by
      cases c <;> cases hbatch
      rfl
    subst hc
    constructor
    · -- The batches of the whole log have different numbers.
      have hnodup : (s.log.filterMap Cue.batch?).Nodup :=
        (h.underway.filed harrows).batches ▸ List.nodup_range
      rw [hlog, List.filterMap_append, List.nodup_append] at hnodup
      intro hmem
      exact hnodup.2.2 batch (List.mem_filterMap.2 ⟨_, hmem, rfl⟩) batch (.head _) rfl
    · obtain ⟨t, u, ht, hgives, hleads⟩ := h.underway.exists_gives hlog rfl
      obtain ⟨cues, hcues, hkinds⟩ := (ht.logs hgives.step).exists_cues
      rcases hkinds _ (hgives.mem hcues) with hfits | hcreation | ⟨heq, hwaits⟩
      · cases hfits
      · cases hcreation
      · cases heq
        exact ⟨t, u, ht, hgives, hleads, hwaits⟩

/-- On the shore a batch was started, and the waves were played when they were known. -/
theorem cuesInOrder_shore :
    ∃ s, Played (fun _ _ => True) ["left", "right"] .shore s ∧
      s.CuesInOrder ["left", "right"] .shore ∧
      s.log.filterMap Cue.batch? = [0] ∧ s.log.filterMap Cue.track? = ["waves"] := by
  have hstart := @Played.start (fun _ _ => True) ["left", "right"] .shore 4 (.ofNat 0) (.ofNat 1)
    _ _ rfl
  have hready := @Played.call _ _ _ _ _ (.handle (.assetsReady (.issued 0))) 4 _ hstart trivial rfl
  exact ⟨_, hready, hready.cuesInOrder (by decide), rfl, rfl⟩

end

end Adventure
