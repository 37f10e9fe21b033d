import Mathlib.Data.List.Sort
import WebhookWise.ConfigSchemas
import WebhookWise.IdentityKeys

/-!
# Namespaces of event keys

`generate_event_keys` digests one of five documents for the dedup key and one of two for the alert
hash.  A document without a namespace may still name one, since the fields of an `_alert_identity`
are taken over from the payload.
-/

namespace WebhookWise

open IdentityKeys

namespace EventKeys

mutual

/-- A document with the keys of its objects in order, as `sort_keys=True` prints it. -/
def sortKeys : Json → Json
  | .list items => .list (sortItems items)
  | .dict entries => .dict ((sortEntries entries).insertionSort fun first second =>
      first.1 ≤ second.1)
  | value => value

def sortItems : List Json → List Json
  | [] => []
  | item :: items => sortKeys item :: sortItems items

def sortEntries : List (String × Json) → List (String × Json)
  | [] => []
  | (key, value) :: entries => (key, sortKeys value) :: sortEntries entries

end

variable {Key : Type} (settings : KeySettings Key)

/-- SHA-256 and the sorted encoding are injective: objects have one digest just when they
have the same keys with the same values. -/
def DigestsInjectively : Prop :=
  ∀ first second, settings.digest first = settings.digest second ↔
    ∀ key, (PyDict.get? first key).map sortKeys = (PyDict.get? second key).map sortKeys

/-- Stripping and lowering a text twice is doing it once. -/
def FoldsOnce (python : PythonRuntime) : Prop :=
  ∀ text, python.lower (strip (python.lower (strip text))) = python.lower (strip text)

/-- `if namespace:`. -/
def presentNamespace (namespaceText : Option String) : Option String :=
  namespaceText.filter fun text => text ≠ ""

/-- The arguments of `generate_event_keys`. -/
structure KeyRequest where
  data : JsonObject
  source : String
  namespaceText : Option String

/-- Both keys of one request differ from those of the other. -/
def KeysApart (first second : KeyRequest) : Prop :=
  (generateEventKeys settings first.data first.source first.namespaceText).1 ≠
      (generateEventKeys settings second.data second.source second.namespaceText).1 ∧
    (generateEventKeys settings first.data first.source first.namespaceText).2 ≠
      (generateEventKeys settings second.data second.source second.namespaceText).2

/-- An identity that names a namespace, and is otherwise the identity of another alert; where
an identity has no source, the source of its request stands for it. -/
structure SameButNamespace (source otherSource namespaceText : String)
    (identity other : PyDict String) : Prop where
  namespaceText : PyDict.get? identity "namespace" = some namespaceText
  source : (PyDict.get? identity "source").getD (foldedSource settings source) =
    (PyDict.get? other "source").getD (foldedSource settings otherSource)
  fields : ∀ key, key ≠ "namespace" → key ≠ "source" →
    PyDict.get? identity key = PyDict.get? other key

/-- A request without a namespace, whose payload brings the namespace of another request and
the same identity. -/
def Impersonates (first second : KeyRequest) : Prop :=
  presentNamespace first.namespaceText = none ∧
    ∃ namespaceText ∈ presentNamespace second.namespaceText,
      ∃ identity ∈ extractAlertIdentity settings first.data,
        ∃ other ∈ extractAlertIdentity settings second.data,
          SameButNamespace settings first.source second.source namespaceText identity other

/-! ## What the key fields hold -/

variable {namespaceText : Option String} {text source : String} {fields : JsonObject}
  {identity : PyDict String} {key : String}

section Fields

variable {settings}

theorem sortKeys_eq_str_iff {value : Json} : sortKeys value = .str text ↔ value = .str text := by
  cases value <;> simp [sortKeys]

theorem digest_ne (injective : DigestsInjectively settings) {first second : JsonObject}
    (key : String)
    (differ : (PyDict.get? first key).map sortKeys ≠ (PyDict.get? second key).map sortKeys) :
    settings.digest first ≠ settings.digest second := by
  intro same
  exact differ ((injective first second).1 same key)

theorem get?_withNamespace (fields : JsonObject) (namespaceText : Option String) (key : String) :
    PyDict.get? (withNamespace fields namespaceText) key =
      if key = "namespace" then
        ((presentNamespace namespaceText).map Json.str).or (PyDict.get? fields key)
      else PyDict.get? fields key := by
  cases namespaceText with
  | none => simp [withNamespace, presentNamespace]
  | some text =>
      by_cases empty : text = ""
      · simp [withNamespace, presentNamespace, Option.filter, empty]
      · by_cases named : key = "namespace" <;>
          simp [withNamespace, presentNamespace, Option.filter, empty, named, PyDict.get?_set]

theorem get?_withNamespace_of_ne (other : key ≠ "namespace") :
    PyDict.get? (withNamespace fields namespaceText) key = PyDict.get? fields key := by
  rw [get?_withNamespace, if_neg other]

theorem get?_namespace (present : presentNamespace namespaceText = some text) :
    PyDict.get? (withNamespace fields namespaceText) "namespace" = some (.str text) := by
  rw [get?_withNamespace, if_pos rfl, present]
  rfl

theorem get?_withoutNamespace (absent : presentNamespace namespaceText = none) (key : String) :
    PyDict.get? (withNamespace fields namespaceText) key = PyDict.get? fields key := by
  rw [get?_withNamespace, absent]
  split <;> rfl

def alertText (settings : KeySettings Key) (identity : PyDict String) (source : String)
    (namespaceText : Option String) (key : String) : Option String :=
  if key = "namespace" then
    (presentNamespace namespaceText).or (PyDict.get? identity key)
  else if key = "source" then
    some ((PyDict.get? identity key).getD (foldedSource settings source))
  else PyDict.get? identity key

theorem get?_alertKeyFields (identity : PyDict String) (source : String)
    (namespaceText : Option String) (key : String) :
    PyDict.get? (alertKeyFields settings identity source namespaceText) key =
      (alertText settings identity source namespaceText key).map Json.str := by
  have sourced : PyDict.get? (if (PyDict.get? identity "source").isSome then
        identity.map fun entry => (entry.1, Json.str entry.2)
      else PyDict.set (identity.map fun entry => (entry.1, Json.str entry.2)) "source"
        (.str (foldedSource settings source))) key =
      (if key = "source" then some ((PyDict.get? identity key).getD (foldedSource settings source))
        else PyDict.get? identity key).map Json.str := by
    by_cases isSource : key = "source"
    · subst isSource
      cases found : PyDict.get? identity "source" with
      | none => simp [PyDict.get?_set]
      | some text => simp [get?_map_str, found]
    · split <;> simp [PyDict.get?_set, get?_map_str, isSource]
  unfold alertKeyFields alertText
  dsimp only
  rw [get?_withNamespace, sourced]
  by_cases named : key = "namespace"
  · subst named
    cases presentNamespace namespaceText <;> simp
  · simp [named]

theorem digest_alertKeyFields_eq_iff (injective : DigestsInjectively settings)
    {other : PyDict String} {otherSource : String} {otherNamespace : Option String} :
    settings.digest (alertKeyFields settings identity source namespaceText) =
        settings.digest (alertKeyFields settings other otherSource otherNamespace) ↔
      alertText settings identity source namespaceText =
        alertText settings other otherSource otherNamespace := by
  rw [injective, funext_iff]
  refine forall_congr' fun key => ?_
  rw [get?_alertKeyFields, get?_alertKeyFields]
  cases alertText settings identity source namespaceText key <;>
    cases alertText settings other otherSource otherNamespace key <;> simp [sortKeys]

theorem alertText_eq_iff {other : PyDict String} {otherSource : String}
    {otherNamespace : Option String} (absent : presentNamespace namespaceText = none)
    (present : presentNamespace otherNamespace = some text) :
    alertText settings identity source namespaceText =
        alertText settings other otherSource otherNamespace ↔
      SameButNamespace settings source otherSource text identity other := by
  constructor
  · intro same
    refine ⟨?_, ?_, fun key notNamespace notSource => ?_⟩
    · simpa [alertText, absent, present] using congrFun same "namespace"
    · simpa [alertText] using congrFun same "source"
    · simpa [alertText, notNamespace, notSource] using congrFun same key
  · intro same
    funext key
    unfold alertText
    split
    · rename_i isNamespace
      rw [isNamespace, absent, present, same.namespaceText]
      rfl
    · split
      · rename_i isSource
        rw [isSource, same.source]
      · rename_i notNamespace notSource
        exact same.fields key notNamespace notSource

end Fields

/-! ## Alert hashes -/

variable {data : JsonObject}

section Requests

variable {settings}

theorem generateEventKeys_fst (data : JsonObject) (source : String)
    (namespaceText : Option String) :
    (generateEventKeys settings data source namespaceText).1 =
      settings.digest (defaultEventKeys settings data source namespaceText).1 := by
  unfold generateEventKeys eventKeyFields
  cases settings.fingerprintMode <;> rfl

theorem generateEventKeys_snd (data : JsonObject) (source : String)
    (namespaceText : Option String) :
    (generateEventKeys settings data source namespaceText).2 =
      settings.digest (eventKeyFields settings data source namespaceText).2 := rfl

theorem alertHash_eq_iff (injective : DigestsInjectively settings) {first second : KeyRequest}
    {text : String} (absent : presentNamespace first.namespaceText = none)
    (present : presentNamespace second.namespaceText = some text) :
    (generateEventKeys settings first.data first.source first.namespaceText).1 =
        (generateEventKeys settings second.data second.source second.namespaceText).1 ↔
      Impersonates settings first second := by
  have withIdentities : Impersonates settings first second ↔
      ∃ identity ∈ extractAlertIdentity settings first.data,
        ∃ other ∈ extractAlertIdentity settings second.data,
          SameButNamespace settings first.source second.source text identity other := by
    simp [Impersonates, absent, present]
  rw [withIdentities, generateEventKeys_fst, generateEventKeys_fst]
  unfold defaultEventKeys
  cases own : extractAlertIdentity settings first.data with
  | none =>
      suffices apart : settings.digest (fallbackKeyFields settings first.data first.source
          first.namespaceText) ≠ _ by simpa using apart
      cases extractAlertIdentity settings second.data with
      | none =>
          refine digest_ne injective "namespace" ?_
          unfold fallbackKeyFields
          rw [get?_withoutNamespace absent, get?_namespace present]
          simp [PyDict.get?]
      | some other =>
          refine digest_ne injective "payload" ?_
          unfold fallbackKeyFields
          rw [get?_withNamespace_of_ne (by decide), get?_alertKeyFields]
          cases alertText settings other second.source second.namespaceText "payload" <;>
            simp [PyDict.get?, sortKeys]
  | some identity =>
      cases extractAlertIdentity settings second.data with
      | none =>
          suffices apart : settings.digest (alertKeyFields settings identity first.source
              first.namespaceText) ≠ settings.digest (fallbackKeyFields settings second.data
                second.source second.namespaceText) by simpa using apart
          refine digest_ne injective "payload" ?_
          unfold fallbackKeyFields
          rw [get?_withNamespace_of_ne (by decide), get?_alertKeyFields]
          cases alertText settings identity first.source first.namespaceText "payload" <;>
            simp [PyDict.get?, sortKeys]
      | some other =>
          dsimp only
          rw [digest_alertKeyFields_eq_iff injective, alertText_eq_iff absent present]
          simp

theorem alertHash_named (present : presentNamespace namespaceText = some text) :
    PyDict.get? (defaultEventKeys settings data source namespaceText).1 "namespace" =
      some (.str text) := by
  unfold defaultEventKeys
  split
  · exact get?_namespace present
  · exact get?_namespace present

/-! ## Dedup keys -/

/-- Fields that have no namespace yet, and a source that is not empty or an object. -/
structure PlainFields (fields : JsonObject) : Prop where
  unnamed : PyDict.get? fields "namespace" = none
  sourced : PyDict.get? fields "source" ≠ some (.str "") ∨
    ∃ key, key ≠ "namespace" ∧ ∃ entries, PyDict.get? fields key = some (.dict entries)

theorem plainFields_object (source key : String) (entries : JsonObject)
    (other : key ≠ "namespace") (notSource : key ≠ "source") :
    PlainFields [("source", .str source), (key, .dict entries)] where
  unnamed := by simp [PyDict.get?, other]
  sourced := Or.inr ⟨key, other, entries, by simp [PyDict.get?, Ne.symm notSource]⟩

theorem get?_withText (fields : JsonObject) (key text wanted : String) :
    PyDict.get? (withText fields key text) wanted =
      if wanted = key ∧ text ≠ "" then some (.str text) else PyDict.get? fields wanted := by
  unfold withText
  by_cases empty : text = ""
  · simp [empty]
  · by_cases same : wanted = key <;> simp [empty, same, PyDict.get?_set]

theorem withText_eq_nil_iff : withText fields key text = [] ↔ fields = [] ∧ text = "" := by
  unfold withText
  split
  · rename_i empty
    exact ⟨fun none => ⟨none, empty⟩, fun both => both.1⟩
  · rename_i filled
    exact ⟨fun none => absurd none (PyDict.set_ne_nil _ _ _), fun both => absurd both.2 filled⟩

theorem withNamespace_eq_nil_iff :
    withNamespace fields namespaceText = [] ↔
      fields = [] ∧ presentNamespace namespaceText = none := by
  cases namespaceText with
  | none => simp [withNamespace, presentNamespace]
  | some text =>
      by_cases empty : text = ""
      · simp [withNamespace, presentNamespace, Option.filter, empty]
      · simp [withNamespace, presentNamespace, Option.filter, empty, PyDict.set_ne_nil]

theorem dedupKeyFields_eq_nil
    (none : dedupKeyFields settings data identity source namespaceText = []) :
    presentNamespace namespaceText = .none ∧
      foldedSource settings ((PyDict.get? identity "source").getD source) = "" := by
  unfold dedupKeyFields at none
  simp only [withNamespace_eq_nil_iff, withText_eq_nil_iff] at none
  exact ⟨none.2, none.1.1.1.1.1.2⟩

theorem plainFields_dedupKeyFields (data : JsonObject) (identity : PyDict String)
    (source : String) (namespaceText : Option String) :
    ∃ fields, PlainFields fields ∧
      dedupKeyFields settings data identity source namespaceText =
        withNamespace fields namespaceText := by
  refine ⟨_, ⟨?_, Or.inl ?_⟩, rfl⟩
  · simp only [get?_withText, String.reduceEq, false_and, if_false]
    rfl
  · simp only [get?_withText, String.reduceEq, false_and, if_false, true_and]
    split
    · rename_i filled
      exact fun isEmpty => filled (Json.str.inj (Option.some.inj isEmpty))
    · exact (nomatch ·)

theorem plainFields_configuredKey {data : JsonObject} {source : String}
    {namespaceText : Option String} {configured : JsonObject}
    (found : configuredKey settings data source namespaceText = some configured) :
    ∃ fields, PlainFields fields ∧ configured = withNamespace fields namespaceText := by
  unfold configuredKey at found
  dsimp only at found
  split at found
  · unfold fingerprintDedupKey at found
    dsimp only at found
    split at found
    · cases found
    · exact ⟨_, plainFields_object _ "fields" _ (by decide) (by decide),
        (Option.some.inj found).symm⟩
  · split at found
    · obtain ⟨labels, _, kept⟩ := Option.bind_eq_some_iff.1 found
      dsimp only at kept
      split at kept
      · cases kept
      · exact ⟨_, plainFields_object _ "labels" _ (by decide) (by decide),
          (Option.some.inj kept).symm⟩
    · cases found

theorem dedup_cases (data : JsonObject) (source : String) (namespaceText : Option String) :
    (∃ fields, PlainFields fields ∧
      (eventKeyFields settings data source namespaceText).2 =
        withNamespace fields namespaceText) ∨
    ∃ identity ∈ extractAlertIdentity settings data,
      dedupKeyFields settings data identity source namespaceText = [] ∧
      (eventKeyFields settings data source namespaceText).2 =
        alertKeyFields settings identity source namespaceText := by
  have default : (∃ fields, PlainFields fields ∧
      (defaultEventKeys settings data source namespaceText).2 =
        withNamespace fields namespaceText) ∨
      ∃ identity ∈ extractAlertIdentity settings data,
        dedupKeyFields settings data identity source namespaceText = [] ∧
        (defaultEventKeys settings data source namespaceText).2 =
          alertKeyFields settings identity source namespaceText := by
    unfold defaultEventKeys
    cases extracted : extractAlertIdentity settings data with
    | none => exact Or.inl ⟨_, plainFields_object _ "payload" _ (by decide) (by decide), rfl⟩
    | some identity =>
        dsimp only
        split
        · rename_i isEmpty
          exact Or.inr ⟨identity, rfl, List.isEmpty_iff.1 isEmpty, rfl⟩
        · exact Or.inl (plainFields_dedupKeyFields data identity source namespaceText)
  unfold eventKeyFields
  cases settings.fingerprintMode with
  | off | shadow => exact default
  | enforce =>
      dsimp only
      cases found : configuredKey settings data source namespaceText with
      | none => exact default
      | some configured => exact Or.inl (plainFields_configuredKey found)

theorem dedupKey_named (present : presentNamespace namespaceText = some text) :
    PyDict.get? (eventKeyFields settings data source namespaceText).2 "namespace" =
      some (.str text) := by
  obtain ⟨fields, _, named⟩ | ⟨_, _, empty, _⟩ :=
    @dedup_cases Key settings data source namespaceText
  · rw [named]
    exact get?_namespace present
  · rw [(dedupKeyFields_eq_nil empty).1] at present
    cases present

theorem foldedSource_of_extracted (foldsOnce : FoldsOnce settings.python)
    (extracted : identity ∈ extractAlertIdentity settings data)
    (found : PyDict.get? identity key = some text) :
    foldedSource settings text = text ∧ text ≠ "" := by
  unfold extractAlertIdentity at extracted
  split at extracted
  · dsimp only at extracted
    split at extracted
    · cases extracted
    · cases extracted
      obtain ⟨entry, isFirst, rfl⟩ := Option.map_eq_some_iff.1 found
      obtain ⟨raw, _, kept⟩ := List.mem_filterMap.1 (List.mem_of_find?_eq_some isFirst)
      obtain ⟨normalized, folded, rfl⟩ := Option.map_eq_some_iff.1 kept
      unfold normalizeIdentityValue at folded
      split at folded
      · cases folded
      · dsimp only at folded
        split at folded
        · cases folded
        · rename_i filled
          cases folded
          exact ⟨foldsOnce _, filled⟩
  · cases extracted

theorem dedupKey_ne (injective : DigestsInjectively settings)
    (foldsOnce : FoldsOnce settings.python) {first second : KeyRequest} {text : String}
    (absent : presentNamespace first.namespaceText = none)
    (present : presentNamespace second.namespaceText = some text) :
    (generateEventKeys settings first.data first.source first.namespaceText).2 ≠
      (generateEventKeys settings second.data second.source second.namespaceText).2 := by
  rw [generateEventKeys_snd, generateEventKeys_snd]
  obtain ⟨plain, isPlain, secondFields⟩ | ⟨_, _, empty, _⟩ :=
    @dedup_cases Key settings second.data second.source second.namespaceText
  · rw [secondFields]
    obtain ⟨fields, noNamespace, firstFields⟩ | ⟨identity, extracted, empty, firstFields⟩ :=
      @dedup_cases Key settings first.data first.source first.namespaceText
    · refine digest_ne injective "namespace" ?_
      rw [firstFields, get?_withoutNamespace absent, noNamespace.unnamed, get?_namespace present]
      exact (nomatch ·)
    · -- The identity has no source of its own, so the alert hash takes over an empty one.
      have unsourced : PyDict.get? identity "source" = none := by
        cases found : PyDict.get? identity "source" with
        | none => rfl
        | some source =>
            obtain ⟨folded, filled⟩ := foldedSource_of_extracted foldsOnce extracted found
            have isEmpty := (dedupKeyFields_eq_nil empty).2
            rw [found, Option.getD_some, folded] at isEmpty
            exact absurd isEmpty filled
      have emptySource := (dedupKeyFields_eq_nil empty).2
      rw [unsourced, Option.getD_none] at emptySource
      rw [firstFields]
      rcases isPlain.sourced with otherSource | ⟨key, other, entries, object⟩
      · refine digest_ne injective "source" ?_
        have ownSource : alertText settings identity first.source first.namespaceText "source" =
            some "" := by
          simp [alertText, unsourced, emptySource]
        rw [get?_alertKeyFields, get?_withNamespace_of_ne (by decide), ownSource]
        cases found : PyDict.get? plain "source" with
        | none => exact (nomatch ·)
        | some value =>
            rw [found] at otherSource
            intro same
            have isEmpty : sortKeys value = .str "" := (Option.some.inj same).symm
            exact otherSource (congrArg some (sortKeys_eq_str_iff.1 isEmpty))
      · refine digest_ne injective key ?_
        rw [get?_alertKeyFields, get?_withNamespace_of_ne other, object]
        cases alertText settings identity first.source first.namespaceText key <;>
          simp [sortKeys]
  · rw [(dedupKeyFields_eq_nil empty).1] at present
    cases present

end Requests

/-! ## Keys of two namespaces -/

/-- Requests of two namespaces share a key just when one impersonates the other. -/
theorem keysApart_iff_neither_impersonates (injective : DigestsInjectively settings)
    (foldsOnce : FoldsOnce settings.python) (first second : KeyRequest)
    (apart : presentNamespace first.namespaceText ≠ presentNamespace second.namespaceText) :
    KeysApart settings first second ↔
      ¬ Impersonates settings first second ∧ ¬ Impersonates settings second first := by
  cases own : presentNamespace first.namespaceText with
  | none =>
      cases other : presentNamespace second.namespaceText with
      | none => exact absurd (own.trans other.symm) apart
      | some text =>
          have never : ¬ Impersonates settings second first := fun impersonates => by
            rw [impersonates.1] at other
            cases other
          rw [KeysApart, ne_eq, alertHash_eq_iff injective own other]
          exact ⟨fun keys => ⟨keys.1, never⟩,
            fun neither => ⟨neither.1, dedupKey_ne injective foldsOnce own other⟩⟩
  | some text =>
      have notFirst : ¬ Impersonates settings first second := fun impersonates => by
        rw [impersonates.1] at own
        cases own
      cases other : presentNamespace second.namespaceText with
      | none =>
          rw [KeysApart, ne_comm, ne_eq, alertHash_eq_iff injective other own]
          exact ⟨fun keys => ⟨notFirst, keys.1⟩,
            fun neither => ⟨neither.2, (dedupKey_ne injective foldsOnce other own).symm⟩⟩
      | some otherText =>
          have notSecond : ¬ Impersonates settings second first := fun impersonates => by
            rw [impersonates.1] at other
            cases other
          have texts : text ≠ otherText := by
            rintro rfl
            exact apart (own.trans other.symm)
          refine ⟨fun _ => ⟨notFirst, notSecond⟩, fun _ => ⟨?_, ?_⟩⟩
          · rw [generateEventKeys_fst, generateEventKeys_fst]
            refine digest_ne injective "namespace" ?_
            rw [alertHash_named own, alertHash_named other]
            simpa [sortKeys] using texts
          · rw [generateEventKeys_snd, generateEventKeys_snd]
            refine digest_ne injective "namespace" ?_
            rw [dedupKey_named own, dedupKey_named other]
            simpa [sortKeys] using texts

/-! ## ASCII texts -/

variable (character : Char)

theorem toLower_cases :
    character.toLower = character ∨
      (65 ≤ character.toNat ∧ character.toNat ≤ 90) ∧
        character.toLower.toNat = character.toNat + 32 := by
  unfold Char.toLower
  split
  · rename_i upper
    have range : 65 ≤ character.toNat ∧ character.toNat ≤ 90 := by
      simpa [UInt32.le_iff_toNat_le] using upper
    refine Or.inr ⟨range, ?_⟩
    have sum : (character.val + ('a'.val - 'A'.val)).toNat =
        (character.toNat + 32) % 2 ^ 32 := UInt32.toNat_add _ _
    exact sum.trans (Nat.mod_eq_of_lt (by omega))
  · exact Or.inl rfl

theorem toLower_toLower : character.toLower.toLower = character.toLower := by
  rcases toLower_cases character with same | ⟨range, lowered⟩
  · rw [same, same]
  · rcases toLower_cases character.toLower with same | ⟨again, _⟩
    · exact same
    · omega

theorem isPythonSpace_toLower : isPythonSpace character.toLower = isPythonSpace character := by
  rcases toLower_cases character with same | ⟨range, lowered⟩
  · rw [same]
  · simp only [isPythonSpace, lowered]
    grind

theorem strip_map_toLower (characters : List Char) :
    strip (String.ofList (characters.map Char.toLower)) =
      String.ofList ((strip (String.ofList characters)).toList.map Char.toLower) := by
  have same : isPythonSpace ∘ Char.toLower = isPythonSpace := funext isPythonSpace_toLower
  simp only [strip, String.toList_ofList, List.dropWhile_map, ← List.map_reverse, same]

theorem foldsOnce_plain : FoldsOnce PythonRuntime.plain := by
  intro text
  simp only [PythonRuntime.plain, PythonRuntime.ascii, strip_map_toLower, String.ofList_toList,
    strip_strip, String.toList_ofList, List.map_map]
  congr 2
  exact funext toLower_toLower

def readableKeys : KeySettings (String → Option Json) where
  python := .plain
  digest fields key := (PyDict.get? fields key).map sortKeys
  resourceDedupBucket _ := none
  fingerprintMode := .off
  fingerprintFields _ := []
  excludedLabels _ := []

theorem digestsInjectively_readableKeys : DigestsInjectively readableKeys :=
  fun _ _ => funext_iff

def namedAlert (further : JsonObject) : JsonObject :=
  [("_alert_identity", .dict (("name", .str "cpu") :: further))]

theorem namedAlert_keysApart :
    KeysApart readableKeys ⟨namedAlert [], "grafana", none⟩
      ⟨namedAlert [], "grafana", some "source-connection:1"⟩ := by
  refine (keysApart_iff_neither_impersonates readableKeys digestsInjectively_readableKeys
    foldsOnce_plain _ _ (by decide)).2 ⟨?_, ?_⟩
  · rintro ⟨_, text, _, identity, own, _, _, same⟩
    cases own
    have named : (none : Option String) = some text := same.namespaceText
    cases named
  · rintro ⟨absent, _⟩
    exact absurd absent (by decide)

/-- The first alert came in without a connection, and brings the namespace of one. -/
theorem namedAlert_impersonates :
    ¬ KeysApart readableKeys
      ⟨namedAlert [("namespace", .str "source-connection:1")], "grafana", none⟩
      ⟨namedAlert [], "grafana", some "source-connection:1"⟩ := by
  have present : presentNamespace (some "source-connection:1") = some "source-connection:1" := by
    decide
  have same : SameButNamespace readableKeys "grafana" "grafana" "source-connection:1"
      [("name", "cpu"), ("namespace", "source-connection:1")] [("name", "cpu")] := by
    refine ⟨by decide, by decide, fun key notNamespace _ => ?_⟩
    simp only [PyDict.get?, List.find?_cons, decide_eq_false (Ne.symm notNamespace)]
  intro apart
  refine apart.1 ((alertHash_eq_iff digestsInjectively_readableKeys rfl present).2 ?_)
  exact ⟨rfl, _, present, _, by decide, _, by decide, same⟩

end EventKeys

end WebhookWise
