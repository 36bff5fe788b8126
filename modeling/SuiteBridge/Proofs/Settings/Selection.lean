import Mathlib.Logic.Relation
import SuiteBridge.Category.Selection
import SuiteBridge.Proofs.Text.Letters
import SuiteBridge.Proofs.Text.Separated

/-!
# What a setting selects

A setting is a row of parts between commas. `Category.Names` says which of them names which
category, and `IsStray` which of them is something but names none. A setting that is not blank
selects the categories that are named and sets aside the strays (`Reads`).

What is selected depends on nothing but the normal forms that occur among the parts. So it stays the
same when the parts change places, are repeated, or are written in another way (`Respells`); this is
shown for one change (`Respells.keeps`) and then for any number of them
(`keeps_of_reflTransGen`).
-/

namespace SuiteBridge

open Text (Pads IsTight isBlank upper trim splitAt join)

/-! ## Names of categories -/

namespace Category

variable {name raw : String} {category : Category}

/-- `Spells name category`: this is what the category is called, in upper case. -/
inductive Spells : String → Category → Prop
  | name (category : Category) : Spells category.name category
  | storage : Spells "STORAGE" .drive

/-- A text names a category: in upper case and without the white space around it, it is what the
category is called. -/
def Names (raw : String) (category : Category) : Prop :=
  ∃ core, Pads core raw.toList ∧ Spells (upper (String.ofList core)) category

theorem ofNormal?_eq_some_iff : ofNormal? name = some category ↔ Spells name category := by
  constructor
  · intro found
    unfold ofNormal? at found
    split at found
    · rename_i storage
      cases found
      exact storage ▸ .storage
    · have same : category.name = name := by simpa using List.find?_some found
      exact same ▸ .name category
  · intro spells
    cases spells with
    | name category => cases category <;> decide
    | storage => decide

theorem Spells.isTight (spells : Spells name category) : IsTight name.toList := by
  have letters : ∀ c ∈ name.toList, c.isAlpha = true := by
    cases spells with
    | name category => cases category <;> exact List.all_eq_true.mp rfl
    | storage => exact List.all_eq_true.mp rfl
  exact Text.isTight_of_forall fun c member => Text.isSpace_of_isAlpha (letters c member)

/-- The name of a category is not empty. -/
theorem Spells.ne_empty (spells : Spells name category) : name ≠ "" := by
  cases spells with
  | name category => cases category <;> decide
  | storage => decide

theorem names_iff_spells : Names raw category ↔ Spells (normal raw) category := by
  constructor
  · rintro ⟨core, padded, spells⟩
    have tight : IsTight core := by
      have upright := spells.isTight
      rwa [Text.toList_upper, String.toList_ofList, Text.isTight_map_toUpper] at upright
    rwa [normal, trim, Text.trimChars_eq_iff.mpr ⟨padded, tight⟩]
  · intro spells
    exact ⟨_, Text.pads_trimChars raw.toList, spells⟩

theorem ofText?_eq_some_iff : ofText? raw = some category ↔ Names raw category := by
  rw [ofText?, ofNormal?_eq_some_iff, names_iff_spells]

instance (raw : String) (category : Category) : Decidable (Names raw category) :=
  decidable_of_iff (ofText? raw = some category) ofText?_eq_some_iff

theorem ofText?_eq_none_iff : ofText? raw = none ↔ ∀ category, ¬ Names raw category := by
  simp [Option.eq_none_iff_forall_ne_some, ofText?_eq_some_iff]

/-- Once is enough to bring a name to normal form. -/
theorem normal_normal (raw : String) : normal (normal raw) = normal raw := by
  have trimmed : trim (trim raw) = trim raw := Text.trim_eq_self (Text.isTight_trim raw)
  rw [normal, normal, Text.trim_upper, Text.upper_upper, trimmed]

theorem normal_eq_empty_iff : normal raw = "" ↔ isBlank raw = true := by
  rw [normal, ← Text.trim_upper, Text.trim_eq_empty_iff, Text.isBlank_upper]

theorem mem_all (category : Category) : category ∈ all := by
  cases category <;> decide

end Category

open Category (Names Spells normal ofNormal? ofText?)

namespace Selection

variable {raw text : String} {parts others : List String} {category : Category}

/-! ## What is named and what is not -/

/-- A part that is not blank and names no category. -/
def IsStray (part : String) : Prop :=
  isBlank part = false ∧ ∀ category, ¬ Names part category

instance (part : String) : Decidable (IsStray part) :=
  decidable_of_iff (isBlank part = false ∧ ofText? part = none)
    (and_congr_right fun _ => Category.ofText?_eq_none_iff)

/-- What is selected by the parts of a setting: every category that is named, or all of them if none
is; and what is set aside, in a form that names nothing either. -/
structure Reads (parts : List String) (selection : Selection) : Prop where
  mem_enabled : ∀ category, category ∈ selection.enabled ↔
    (∃ part ∈ parts, Names part category) ∨ ∀ part ∈ parts, ∀ other, ¬ Names part other
  fellBack : selection.fellBack = true ↔ ∀ part ∈ parts, ∀ category, ¬ Names part category
  rejected : selection.rejected = (parts.filter fun part => IsStray part).map normal
  unnamed : ∀ token ∈ selection.rejected, ∀ category, ¬ Names token category

theorem mem_tokens_iff {token : String} :
    token ∈ tokens raw ↔ token ≠ "" ∧ token ∈ (splitAt ',' raw).map normal := by
  rw [tokens, List.mem_filter, bne_iff_ne, and_comm]

theorem mem_named_iff :
    category ∈ named (tokens raw) ↔ ∃ part ∈ splitAt ',' raw, Names part category := by
  simp only [named, List.mem_filter, Category.mem_all, true_and, List.any_eq_true, beq_iff_eq,
    Category.ofNormal?_eq_some_iff, Category.names_iff_spells, mem_tokens_iff, List.mem_map]
  constructor
  · rintro ⟨_, ⟨-, part, member, rfl⟩, spells⟩
    exact ⟨part, member, spells⟩
  · rintro ⟨part, member, spells⟩
    exact ⟨_, ⟨spells.ne_empty, part, member, rfl⟩, spells⟩

theorem named_eq_nil_iff :
    named (tokens raw) = [] ↔
      ∀ part ∈ splitAt ',' raw, ∀ category, ¬ Names part category := by
  simp only [List.eq_nil_iff_forall_not_mem, mem_named_iff, not_exists, not_and]
  exact ⟨fun none part member category => none category part member,
    fun none category part member => none part member category⟩

theorem unknown_tokens (raw : String) :
    unknown (tokens raw) =
      ((splitAt ',' raw).filter fun part => IsStray part).map normal := by
  rw [unknown, tokens, List.filter_filter, List.filter_map]
  refine congrArg (List.map normal) (List.filter_congr fun part _ => ?_)
  rw [Function.comp_apply, Bool.eq_iff_iff, decide_eq_true_iff, IsStray,
    ← Category.ofText?_eq_none_iff, Bool.and_eq_true, Option.isNone_iff_eq_none, bne_iff_ne,
    Ne, Category.normal_eq_empty_iff, Bool.not_eq_true, and_comm, ofText?]

theorem not_names_of_mem_unknown {token : String} (member : token ∈ unknown (tokens raw))
    (category : Category) : ¬ Names token category := by
  rw [unknown_tokens] at member
  obtain ⟨part, stray, rfl⟩ := List.mem_map.mp member
  obtain ⟨-, unnamed⟩ := of_decide_eq_true (List.mem_filter.mp stray).2
  rw [Category.names_iff_spells, Category.normal_normal, ← Category.names_iff_spells]
  exact unnamed category

theorem ofSetting_of_isBlank (blank : isBlank text = true) :
    ofSetting (some text) = everything ∧ events (some text) = [] := by
  simp [ofSetting, events, blank]

/-- A setting that is not blank is read part by part. -/
theorem reads_ofSetting (visible : isBlank text = false) :
    Reads (splitAt ',' text) (ofSetting (some text)) := by
  by_cases none : named (tokens text) = []
  · have unnamed := named_eq_nil_iff.mp none
    have made : ofSetting (some text) = ⟨Category.all, unknown (tokens text), true⟩ := by
      simp [ofSetting, visible, none]
    rw [made]
    exact ⟨fun category => iff_of_true (Category.mem_all category) (Or.inr unnamed),
      iff_of_true rfl unnamed, unknown_tokens text, fun _ => not_names_of_mem_unknown⟩
  · have made : ofSetting (some text) =
        ⟨named (tokens text), unknown (tokens text), false⟩ := by
      simp [ofSetting, visible, none]
    have named := named_eq_nil_iff.not.mp none
    rw [made]
    exact ⟨fun category => mem_named_iff.trans (or_iff_left named).symm,
      iff_of_false Bool.false_ne_true named, unknown_tokens text,
      fun _ => not_names_of_mem_unknown⟩

/-- There is one report for each part that is set aside, and one more if nothing is named. -/
theorem events_of_visible (visible : isBlank text = false) :
    events (some text) = (ofSetting (some text)).rejected.map .unknownCategory ++
      if (ofSetting (some text)).fellBack then [.noValidCategory text] else [] := by
  by_cases none : named (tokens text) = [] <;> simp [ofSetting, events, visible, none]

theorem enabled_sublist (raw : Option String) :
    (ofSetting raw).enabled.Sublist Category.all := by
  cases raw with
  | none => exact List.Sublist.refl _
  | some text =>
      unfold ofSetting
      dsimp only
      split
      · exact List.Sublist.refl _
      · split
        · exact List.Sublist.refl _
        · exact List.filter_sublist

theorem enabled_ne_nil (raw : Option String) : (ofSetting raw).enabled ≠ [] := by
  have filled : Category.all ≠ [] := by decide
  cases raw with
  | none => exact filled
  | some text =>
      unfold ofSetting
      dsimp only
      split
      · exact filled
      · split
        · exact filled
        · assumption

/-! ## Other ways to write a setting -/

/-- `Respells parts others`: one change to a row of parts that names nothing new. The parts change
places, one of them is repeated, written in another case or with more white space around it, or an
empty one is put in. -/
inductive Respells : List String → List String → Prop
  | permuted {parts others : List String} : parts.Perm others → Respells parts others
  | repeated (before : List String) (part : String) (behind : List String) :
    Respells (before ++ part :: behind) (before ++ part :: part :: behind)
  | recased (before : List String) {part other : String} (behind : List String) :
    upper part = upper other → Respells (before ++ part :: behind) (before ++ other :: behind)
  | padded (before : List String) {part other : String} (behind : List String) :
    Pads part.toList other.toList → Respells (before ++ part :: behind) (before ++ other :: behind)
  | inserted (before behind : List String) : Respells (before ++ behind) (before ++ "" :: behind)

/-- What one row of parts has in common with another one: there is no comma in the parts, there are
at least as many of them, and the same normal forms occur among them, the empty one apart. -/
structure Keeps (parts others : List String) : Prop where
  free : (∀ part ∈ parts, ',' ∉ part.toList) → ∀ other ∈ others, ',' ∉ other.toList
  length : parts.length ≤ others.length
  normals : ∀ token, token ≠ "" → (token ∈ parts.map normal ↔ token ∈ others.map normal)

theorem Keeps.refl (parts : List String) : Keeps parts parts :=
  ⟨id, le_rfl, fun _ _ => Iff.rfl⟩

theorem Keeps.trans {last : List String} (first : Keeps parts others) (second : Keeps others last) :
    Keeps parts last :=
  ⟨second.free ∘ first.free, first.length.trans second.length,
    fun token some => (first.normals token some).trans (second.normals token some)⟩

/-- A part may be replaced by one with the same normal form. -/
theorem keeps_replace {part other : String} (same : normal part = normal other)
    (free : ',' ∉ part.toList → ',' ∉ other.toList) (before behind : List String) :
    Keeps (before ++ part :: behind) (before ++ other :: behind) where
  free all := by
    rw [List.forall_mem_append, List.forall_mem_cons] at all ⊢
    exact ⟨all.1, free all.2.1, all.2.2⟩
  length := by simp
  normals token some := by simp [same]

/-- One change keeps what a selection depends on. -/
theorem Respells.keeps (respells : Respells parts others) : Keeps parts others := by
  cases respells with
  | permuted perm =>
      exact ⟨fun all other member => all other (perm.mem_iff.mpr member), perm.length_eq.le,
        fun token _ => (perm.map normal).mem_iff⟩
  | repeated before part behind =>
      refine ⟨fun all other member => all other ?_, by simp, fun token _ => by simp⟩
      simpa using member
  | @recased before part other behind same =>
      have forms : normal part = normal other := by
        rw [normal, normal, ← Text.trim_upper, ← Text.trim_upper, same]
      refine keeps_replace forms (fun free => ?_) before behind
      rwa [← Text.mem_toList_upper_iff (by decide), ← same,
        Text.mem_toList_upper_iff (by decide)]
  | @padded before part other behind padded =>
      have forms : normal part = normal other := by
        rw [normal, normal, trim, trim, padded.trimChars_eq]
      refine keeps_replace forms (fun free => ?_) before behind
      obtain ⟨left, right, blank, also, made⟩ := padded
      rw [made, List.mem_append, List.mem_append, not_or, not_or]
      exact ⟨⟨fun member => absurd (blank _ member) (by decide), free⟩,
        fun member => absurd (also _ member) (by decide)⟩
  | inserted before behind =>
      have nothing : normal "" = "" := by decide
      refine ⟨fun all => ?_, by simp, fun token some => by simp [nothing, some]⟩
      rw [List.forall_mem_append, List.forall_mem_cons]
      rw [List.forall_mem_append] at all
      exact ⟨all.1, by decide, all.2⟩

/-- So does any number of changes. -/
theorem keeps_of_reflTransGen (respelt : Relation.ReflTransGen Respells parts others) :
    Keeps parts others := by
  induction respelt with
  | refl => exact .refl parts
  | tail _ step ih => exact ih.trans step.keeps

theorem named_congr {left right : List String} (same : ∀ token, token ∈ left ↔ token ∈ right) :
    named left = named right := by
  refine List.filter_congr fun category _ => ?_
  rw [Bool.eq_iff_iff]
  simp [same]

/-- A setting whose parts have what matters in common with those of another one selects the same. -/
theorem Keeps.selects (keeps : Keeps (splitAt ',' text) others) (visible : isBlank text = false) :
    (ofSetting (some (join "," others))).enabled = (ofSetting (some text)).enabled ∧
      (ofSetting (some (join "," others))).fellBack = (ofSetting (some text)).fellBack := by
  have filled : others ≠ [] := by
    have some := List.length_pos_iff.mpr (Text.splitAt_ne_nil ',' text)
    exact List.ne_nil_of_length_pos (some.trans_le keeps.length)
  have cut : splitAt ',' (join "," others) = others :=
    Text.splitAt_join rfl (keeps.free fun part => Text.not_mem_of_mem_splitAt) filled
  have seen : isBlank (join "," others) = false := by
    rw [Bool.eq_false_iff] at visible ⊢
    intro blank
    have comma : Text.isSpace ',' = false := by decide
    obtain ⟨other, single, white⟩ := (Text.isBlank_iff_splitAt comma).mp blank
    rw [cut] at single
    -- the setting itself was then a single part, and its normal form is lost
    have most : (splitAt ',' text).length ≤ 1 := keeps.length.trans_eq (by rw [single]; rfl)
    have least := List.length_pos_iff.mpr (Text.splitAt_ne_nil ',' text)
    obtain ⟨part, own⟩ := List.length_eq_one_iff.mp (le_antisymm most least)
    obtain rfl := Text.eq_of_splitAt_eq_singleton own
    have found := keeps.normals (normal text) (mt Category.normal_eq_empty_iff.mp visible)
    rw [own, single, List.map_singleton, List.map_singleton, List.mem_singleton,
      List.mem_singleton, Category.normal_eq_empty_iff.mpr white, Category.normal_eq_empty_iff]
      at found
    exact visible (found.mp rfl)
  have same : named (tokens (join "," others)) = named (tokens text) := by
    refine named_congr fun token => ?_
    rw [mem_tokens_iff, mem_tokens_iff, cut]
    exact and_congr_right fun some => (keeps.normals token some).symm
  by_cases none : named (tokens text) = [] <;> simp [ofSetting, visible, seen, same, none]

/-- **A setting selects what is named in it.** Something is always selected. Without a setting, or
with a blank one, this is everything, and nothing is reported. Any other setting selects the
categories that its parts name, or everything if there is none; its strays are set aside, in normal
form and in their order, and there is one warning for each of them and one more if nothing is named.
However often such a setting is written in another way, it selects the same. -/
theorem ofSetting_selects (raw : Option String) :
    (ofSetting raw).enabled ≠ [] ∧ (ofSetting raw).enabled.Sublist Category.all ∧
    ((∀ text ∈ raw, isBlank text = true) →
      (∀ category, category ∈ (ofSetting raw).enabled) ∧ (ofSetting raw).rejected = [] ∧
      (ofSetting raw).fellBack = false ∧ events raw = []) ∧
    ∀ text ∈ raw, isBlank text = false →
      Reads (splitAt ',' text) (ofSetting raw) ∧
      events raw = (ofSetting raw).rejected.map .unknownCategory ++
        (if (ofSetting raw).fellBack then [.noValidCategory text] else []) ∧
      (∀ event ∈ events raw, event.level = .warn) ∧
      ∀ others, Relation.ReflTransGen Respells (splitAt ',' text) others →
        (ofSetting (some (join "," others))).enabled = (ofSetting raw).enabled ∧
        (ofSetting (some (join "," others))).fellBack = (ofSetting raw).fellBack := by
  refine ⟨enabled_ne_nil raw, enabled_sublist raw, fun blank => ?_, ?_⟩
  · have unset : ofSetting raw = everything ∧ events raw = [] := by
      cases raw with
      | none => exact ⟨rfl, rfl⟩
      | some text => exact ofSetting_of_isBlank (blank text rfl)
    rw [unset.1]
    exact ⟨Category.mem_all, rfl, rfl, unset.2⟩
  · rintro text rfl visible
    have reported := events_of_visible visible
    refine ⟨reads_ofSetting visible, reported, ?_, fun others respelt => ?_⟩
    · intro event member
      rw [reported, List.mem_append] at member
      rcases member with stray | fallen
      · obtain ⟨token, -, rfl⟩ := List.mem_map.mp stray
        rfl
      · split at fallen
        · rw [List.mem_singleton.mp fallen]
          rfl
        · cases fallen
    · exact (keeps_of_reflTransGen respelt).selects visible

/-- A setting with the other name of a category, a stray given twice and an empty part. -/
def mixedSetting : String := "\u3000Storage , mail,,MAIL"

/-- The drive is selected and the stray is reported twice; and so is the drive after the parts have
changed places and cases, one is repeated, one gets a tab in front of it and an empty one is put
before all of them. -/
theorem ofSetting_selects_mixedSetting :
    isBlank mixedSetting = false ∧ Names "\u3000Storage " .drive ∧
    Category.drive ∈ (ofSetting (some mixedSetting)).enabled ∧
    Category.wiki ∉ (ofSetting (some mixedSetting)).enabled ∧
    (ofSetting (some mixedSetting)).rejected = ["MAIL", "MAIL"] ∧
    events (some mixedSetting) = [.unknownCategory "MAIL", .unknownCategory "MAIL"] ∧
    (ofSetting (some ", mail,,\tMAIL,\u3000stoRAGE ,\u3000stoRAGE ")).enabled =
      (ofSetting (some mixedSetting)).enabled := by
  have visible : isBlank mixedSetting = false := by decide
  have parts : splitAt ',' mixedSetting = ["\u3000Storage ", " mail", "", "MAIL"] := by
    decide +kernel
  have named : Names "\u3000Storage " .drive := by decide +kernel
  have wiki : ∀ part ∈ splitAt ',' mixedSetting, ¬ Names part .wiki := by
    rw [parts]
    decide +kernel
  obtain ⟨-, -, -, selects⟩ := ofSetting_selects (some mixedSetting)
  obtain ⟨reads, reported, -, respelt⟩ := selects mixedSetting rfl visible
  have member : "\u3000Storage " ∈ splitAt ',' mixedSetting := parts ▸ List.mem_cons_self
  have rejected : (ofSetting (some mixedSetting)).rejected = ["MAIL", "MAIL"] := by
    rw [reads.rejected, parts]
    decide +kernel
  have fellBack : (ofSetting (some mixedSetting)).fellBack = false := by
    rw [Bool.eq_false_iff, Ne, reads.fellBack]
    exact fun none => none _ member _ named
  have drive : Category.drive ∈ (ofSetting (some mixedSetting)).enabled :=
    (reads.mem_enabled _).mpr (Or.inl ⟨_, member, named⟩)
  refine ⟨visible, named, drive, ?_, rejected, ?_, ?_⟩
  · rw [reads.mem_enabled]
    rintro (⟨part, listed, own⟩ | none)
    · exact wiki part listed own
    · exact none _ member _ named
  · rw [reported, rejected, fellBack]
    rfl
  · have moved : Respells (splitAt ',' mixedSetting) [" mail", "", "MAIL", "\u3000Storage "] := by
      rw [parts]
      exact .permuted (by decide)
    have recased : Respells [" mail", "", "MAIL", "\u3000Storage "]
        [" mail", "", "MAIL", "\u3000stoRAGE "] :=
      .recased [" mail", "", "MAIL"] [] (by decide)
    have repeated : Respells [" mail", "", "MAIL", "\u3000stoRAGE "]
        [" mail", "", "MAIL", "\u3000stoRAGE ", "\u3000stoRAGE "] :=
      .repeated [" mail", "", "MAIL"] "\u3000stoRAGE " []
    have padded : Respells [" mail", "", "MAIL", "\u3000stoRAGE ", "\u3000stoRAGE "]
        [" mail", "", "\tMAIL", "\u3000stoRAGE ", "\u3000stoRAGE "] :=
      .padded [" mail", ""] _ ⟨['\t'], [], List.all_eq_true.mp rfl, nofun, rfl⟩
    have inserted : Respells [" mail", "", "\tMAIL", "\u3000stoRAGE ", "\u3000stoRAGE "]
        ["", " mail", "", "\tMAIL", "\u3000stoRAGE ", "\u3000stoRAGE "] :=
      .inserted [] _
    exact (respelt _ (.head moved (.head recased (.head repeated
      (.head padded (.single inserted)))))).1

end Selection

end SuiteBridge
