import DiscoveryServer.Construction

/-!
# Topic profiles

The loop over the `topic` elements enters a profile into the map before
`fill_topic_description_profile` fills it, so an element that is refused leaves what
had been read of it, and the loop ends there. `onlyWellFormed_iff` says when the map
holds accepted elements only: where the first element of each name that is not yet
in the map is accepted (`FirstAccepted`). The first element for which this fails is
the one the loop stops at.
-/

namespace DiscoveryServer

open Library

/-! ## Elements -/

/-- The name of a topic profile. -/
def topicProfileName (e : XMLElement) : Option String :=
  e.attributeValue "profile_name"

/-- What `fill_topic_description_profile` makes of an element, and its verdict. -/
def topicDescriptionOf (e : XMLElement) : TopicDescriptionItem × Bool :=
  let filled := fillTopicDescription e.children {} true []
  (filled.1, filled.2.1)

/-- What is logged has no influence on an element. -/
theorem fillTopicDescription_errors (children : List XMLElement) (item : TopicDescriptionItem)
    (ret : Bool) (errors errors' : List String) :
    (fillTopicDescription children item ret errors).1 =
        (fillTopicDescription children item ret errors').1 ∧
      (fillTopicDescription children item ret errors).2.1 =
        (fillTopicDescription children item ret errors').2.1 := by
  induction children generalizing item ret errors errors' with
  | nil => exact ⟨rfl, rfl⟩
  | cons aux0 rest ih =>
    unfold fillTopicDescription
    split_ifs
    · cases aux0.getText with
      | none => exact ⟨rfl, rfl⟩
      | some text => exact ih _ _ _ _
    · cases aux0.getText with
      | none => exact ⟨rfl, rfl⟩
      | some text => exact ih _ _ _ _
    · exact ih _ _ _ _

theorem fillTopicDescription_eq (e : XMLElement) (errors : List String) :
    (fillTopicDescription e.children {} true errors).1 = (topicDescriptionOf e).1 ∧
      (fillTopicDescription e.children {} true errors).2.1 = (topicDescriptionOf e).2 :=
  fillTopicDescription_errors e.children {} true errors []

/-! ## The loop -/

namespace Loading

/-- The map of topic profiles. -/
abbrev topics (l : Loading) : String → Option TopicDescriptionItem :=
  l.topicDescriptionProfilesMap

/-- The first element of each name that is not in the map yet is accepted. -/
def FirstAccepted (l : Loading) (elements : List XMLElement) : Prop :=
  ∀ name e, l.topics name = none →
    elements.find? (fun e => topicProfileName e = some name) = some e →
      (topicDescriptionOf e).2 = true

/-- An element the loop goes past: one that has no name or a known one changes nothing,
any other one is entered. -/
theorem loadTopics_cons (l : Loading) (e : XMLElement)
    (h : ∀ name, topicProfileName e = some name → l.topics name = none →
      (topicDescriptionOf e).2 = true) :
    ∃ l' : Loading, (∀ rest, l.loadTopics (e :: rest) = l'.loadTopics rest) ∧
      ∀ name, l'.topics name =
        (l.topics name).or (if topicProfileName e = some name
          then some (topicDescriptionOf e).1 else none) := by
  cases hname : topicProfileName e with
  | none =>
    refine ⟨l, fun rest => ?_, fun name => ?_⟩
    · unfold topicProfileName at hname
      rw [loadTopics, hname]
    · simp
  | some own =>
    have hattribute : e.attributeValue "profile_name" = some own := hname
    cases hmap : l.topicDescriptionProfilesMap own with
    | some item =>
      refine ⟨l, fun rest => ?_, fun name => ?_⟩
      · rw [loadTopics, hattribute]
        dsimp only
        rw [hmap]
      · by_cases heq : own = name
        · subst heq
          simp [hmap]
        · simp [heq]
    | none =>
      obtain ⟨hitem, hret⟩ := fillTopicDescription_eq e l.errors
      rw [h own hname hmap] at hret
      let filled := fillTopicDescription e.children {} true l.errors
      refine ⟨{ l with
        topicDescriptionProfilesMap :=
          Function.update l.topicDescriptionProfilesMap own (some filled.1)
        errors := filled.2.2 }, fun rest => ?_, fun name => ?_⟩
      · rw [loadTopics, hattribute]
        dsimp only
        rw [hmap]
        dsimp only
        rw [hret]
        rfl
      · by_cases heq : own = name
        · subst heq
          simp [topics, filled, hmap, hitem]
        · simp [topics, heq, Function.update_of_ne (Ne.symm heq)]

/-- **A loop that no element stops** enters the first element of each new name. -/
theorem loadTopics_topics {l : Loading} {elements : List XMLElement}
    (h : l.FirstAccepted elements) :
    (∀ rest, l.loadTopics (elements ++ rest) = (l.loadTopics elements).loadTopics rest) ∧
      ∀ name, (l.loadTopics elements).topics name = (l.topics name).or
        ((elements.find? fun e => topicProfileName e = some name).map
          fun e => (topicDescriptionOf e).1) := by
  induction elements generalizing l with
  | nil => exact ⟨fun _ => rfl, fun name => by simp [loadTopics]⟩
  | cons e elements ih =>
    have hfirst : ∀ name, topicProfileName e = some name → l.topics name = none →
        (topicDescriptionOf e).2 = true := by
      intro name hname hmap
      exact h name e hmap (by simp [hname])
    obtain ⟨l', hload, htopics⟩ := loadTopics_cons l e hfirst
    have hrest : l'.FirstAccepted elements := by
      intro name e' hmap hfind
      rw [htopics, Option.or_eq_none_iff] at hmap
      have hne : topicProfileName e ≠ some name := by
        intro hname
        rw [if_pos hname] at hmap
        cases hmap.2
      exact h name e' hmap.1 (by simpa [hne] using hfind)
    obtain ⟨happend, hmap⟩ := ih hrest
    refine ⟨fun rest => ?_, fun name => ?_⟩
    · rw [List.cons_append, hload, hload, happend]
    · rw [hload, hmap, htopics, Option.or_assoc, List.find?_cons]
      by_cases hname : topicProfileName e = some name
      · simp [hname]
      · simp [hname]

/-- Where the loop is stopped: the first element of a new name that is refused. -/
theorem exists_stop {l : Loading} {elements : List XMLElement}
    (h : ¬ l.FirstAccepted elements) :
    ∃ before e name, before ++ [e] <+: elements ∧ l.FirstAccepted before ∧
      topicProfileName e = some name ∧ (l.loadTopics before).topics name = none ∧
      (topicDescriptionOf e).2 = false := by
  induction elements using List.reverseRecOn with
  | nil => exact absurd (fun _ _ _ hfind => by cases hfind) h
  | append_singleton elements e ih =>
    by_cases hbefore : l.FirstAccepted elements
    · refine ⟨elements, e, ?_⟩
      obtain ⟨_, hmap⟩ := loadTopics_topics hbefore
      unfold FirstAccepted at h
      push Not at h
      obtain ⟨name, e', hnone, hfind, hrefused⟩ := h
      rw [List.find?_append] at hfind
      cases hold : elements.find? fun e => topicProfileName e = some name with
      | some e'' =>
        rw [hold, Option.some_or] at hfind
        cases hfind
        exact absurd (hbefore name e' hnone hold) hrefused
      | none =>
        rw [hold, Option.none_or] at hfind
        have hname : topicProfileName e = some name ∧ e = e' := by simpa using hfind
        obtain ⟨hname, rfl⟩ := hname
        refine ⟨name, List.prefix_rfl, hbefore, hname, ?_, Bool.eq_false_of_not_eq_true hrefused⟩
        rw [hmap, hnone, hold]
        rfl
    · obtain ⟨before, e', name, hpref, hrest⟩ := ih hbefore
      exact ⟨before, e', name, hpref.trans (List.prefix_append _ _), hrest⟩

/-- The element the loop stops at is in the map afterwards. -/
theorem loadTopics_stop {l : Loading} {e : XMLElement} {name : String} (rest : List XMLElement)
    (hname : topicProfileName e = some name) (hnone : l.topics name = none)
    (hrefused : (topicDescriptionOf e).2 = false) :
    (l.loadTopics (e :: rest)).topics name = some (topicDescriptionOf e).1 := by
  obtain ⟨hitem, hret⟩ := fillTopicDescription_eq e l.errors
  rw [hrefused] at hret
  have hattribute : e.attributeValue "profile_name" = some name := hname
  have hmap : l.topicDescriptionProfilesMap name = none := hnone
  unfold topics
  rw [loadTopics, hattribute]
  dsimp only
  rw [hmap]
  dsimp only
  rw [hret]
  simp [logError, hitem]

/-- What is logged and what else there is have no influence on the map. -/
theorem loadTopics_congr {l l' : Loading} (h : l.topics = l'.topics)
    (elements : List XMLElement) :
    (l.loadTopics elements).topics = (l'.loadTopics elements).topics := by
  induction elements generalizing l l' with
  | nil => exact h
  | cons e rest ih =>
    have hmap : l.topicDescriptionProfilesMap = l'.topicDescriptionProfilesMap := h
    obtain ⟨hitem, hret⟩ := fillTopicDescription_eq e l.errors
    obtain ⟨hitem', hret'⟩ := fillTopicDescription_eq e l'.errors
    unfold loadTopics
    cases e.attributeValue "profile_name" with
    | none => exact ih h
    | some name =>
      dsimp only
      rw [← hmap]
      cases l.topicDescriptionProfilesMap name with
      | some item => exact ih h
      | none =>
        dsimp only
        rw [hret, hret', hitem, hitem']
        cases (topicDescriptionOf e).2 with
        | true => exact ih rfl
        | false => rfl

theorem FirstAccepted.of_append {l : Loading} {before after : List XMLElement}
    (h : l.FirstAccepted (before ++ after)) : l.FirstAccepted before := by
  intro name e hnew hfind
  refine h name e hnew ?_
  rw [List.find?_append, hfind]
  rfl

/-- The first element of a name is the first accepted one of that name. -/
theorem FirstAccepted.find? {l : Loading} {elements : List XMLElement} {name : String}
    {e : XMLElement} (h : l.FirstAccepted elements) (hnew : l.topics name = none)
    (hfind : elements.find? (fun e => topicProfileName e = some name) = some e) :
    elements.find? (fun e => topicProfileName e = some name && (topicDescriptionOf e).2) =
      some e := by
  obtain ⟨hname, before, after, helements, hbefore⟩ := List.find?_eq_some_iff_append.mp hfind
  refine List.find?_eq_some_iff_append.mpr ⟨?_, before, after, helements, ?_⟩
  · rw [hname, h name e hnew hfind]
    rfl
  · intro e' he'
    have hother := hbefore e' he'
    rw [Bool.not_eq_true'] at hother ⊢
    rw [hother, Bool.false_and]

/-- A refused element is not the first of a name that is new, so it changes nothing. -/
theorem FirstAccepted.topics_of_refused {l : Loading} {before : List XMLElement}
    {e : XMLElement} (h : l.FirstAccepted (before ++ [e]))
    (hrefused : (topicDescriptionOf e).2 = false) :
    (l.loadTopics (before ++ [e])).topics = (l.loadTopics before).topics := by
  obtain ⟨_, hwith⟩ := loadTopics_topics h
  obtain ⟨_, hwithout⟩ := loadTopics_topics h.of_append
  funext name
  rw [hwith, hwithout, List.find?_append]
  cases hold : before.find? fun e => topicProfileName e = some name with
  | some e' => rfl
  | none =>
    cases hmap : l.topics name with
    | some item => rfl
    | none =>
      have hname : topicProfileName e ≠ some name := by
        intro hname
        have haccepted := h name e hmap (by
          rw [List.find?_append, hold]
          simp [hname])
        rw [haccepted] at hrefused
        cases hrefused
      simp [hname]

end Loading

/-! ## Well-formed profiles -/

namespace Environment

variable {env : Environment} {l : Loading} {profiles : XMLElement}

/-- Only accepted elements get into the map: a name that is new has the item of the
first accepted element of that name, and a refused element leaves the map as the
elements before it have left it. -/
structure OnlyWellFormed (env : Environment) (l : Loading) (profiles : XMLElement) : Prop where
  registered : ∀ name item, l.topics name = none →
    (env.loadProfiles l profiles).topics name = some item →
      ∃ e, (profiles.childElements "topic").find? (fun e =>
          topicProfileName e = some name && (topicDescriptionOf e).2) = some e ∧
        item = (topicDescriptionOf e).1
  refused : ∀ before e, before ++ [e] <+: profiles.childElements "topic" →
    (topicDescriptionOf e).2 = false →
      (l.loadTopics (before ++ [e])).topics = (l.loadTopics before).topics

theorem loadProfiles_topics (env : Environment) (l : Loading) (profiles : XMLElement) :
    (env.loadProfiles l profiles).topics =
      (l.loadTopics (profiles.childElements "topic")).topics := by
  unfold loadProfiles
  dsimp only
  split_ifs
  · exact Loading.loadTopics_congr (by rfl) _
  · exact Loading.loadTopics_congr (by rfl) _

/-- A map that is well formed has been read to its end. -/
theorem OnlyWellFormed.firstAccepted (h : OnlyWellFormed env l profiles) :
    l.FirstAccepted (profiles.childElements "topic") := by
  by_contra hstop
  obtain ⟨before, e, name, hpref, hbefore, hname, hnone, hrefused⟩ := Loading.exists_stop hstop
  have hsame := h.refused before e hpref hrefused
  obtain ⟨happend, _⟩ := Loading.loadTopics_topics hbefore
  rw [happend] at hsame
  have hentered := Loading.loadTopics_stop [] hname hnone hrefused
  rw [hsame, hnone] at hentered
  cases hentered

/-- **Topic profiles are well formed** exactly where the first element of each name that
is not in the map yet is accepted. -/
theorem onlyWellFormed_iff :
    OnlyWellFormed env l profiles ↔ l.FirstAccepted (profiles.childElements "topic") := by
  constructor
  · exact OnlyWellFormed.firstAccepted
  · intro h
    obtain ⟨_, hmap⟩ := Loading.loadTopics_topics h
    refine ⟨fun name item hnew hitem => ?_, fun before e hpref hrefused => ?_⟩
    · rw [loadProfiles_topics, hmap, hnew, Option.none_or, Option.map_eq_some_iff] at hitem
      obtain ⟨e, hfind, rfl⟩ := hitem
      exact ⟨e, h.find? hnew hfind, rfl⟩
    · obtain ⟨after, helements⟩ := hpref
      rw [← helements] at h
      exact h.of_append.topics_of_refused hrefused

/-- A profile as the topics of other profiles are written, with a `kind`. -/
def keyedTopic : XMLElement :=
  ⟨"topic", [("profile_name", "T")], none, [⟨"name", [], some "X", []⟩,
    ⟨"kind", [], some "NO_KEY", []⟩]⟩

/-- The element is refused, and its name is in the map all the same. -/
theorem refused_topic_registered : ¬ ∀ (env : Environment) (l : Loading)
    (profiles : XMLElement), OnlyWellFormed env l profiles := by
  intro h
  have hrefused := (h sampleEnvironment
    (sampleEnvironment.initial false (.new "DS") (.initial 0 0 0))
    ⟨"profiles", [], none, [keyedTopic]⟩).refused [] keyedTopic List.prefix_rfl (by decide)
  have hname := congrFun hrefused "T"
  exact absurd hname (by decide)

end Environment

end DiscoveryServer
