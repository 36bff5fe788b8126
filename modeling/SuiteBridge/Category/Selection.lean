import SuiteBridge.Category.Basic
import SuiteBridge.Log

/-!
# The selection of categories

A setting selects categories by a list of names between commas. No setting, or a blank one, selects
all of them; names of no category are set aside, and when none is left all are selected after all.
-/

namespace SuiteBridge

/-- The categories a setting selects. -/
structure Selection where
  /-- The selected categories, in the order of all categories. -/
  enabled : List Category
  /-- The names of no category, in normal form and in the order given. -/
  rejected : List String
  /-- Whether all are selected because none of the names was good. -/
  fellBack : Bool
  deriving DecidableEq, Repr

namespace Selection

/-- The selection of everything, when there is nothing to select by. -/
def everything : Selection :=
  ⟨Category.all, [], false⟩

/-- The names in a setting, in normal form and without the empty ones. -/
def tokens (raw : String) : List String :=
  ((Text.splitAt ',' raw).map Category.normal).filter (· != "")

/-- The categories that some of the names name. -/
def named (tokens : List String) : List Category :=
  Category.all.filter fun category => tokens.any fun t => Category.ofNormal? t == some category

/-- The names that name no category. -/
def unknown (tokens : List String) : List String :=
  tokens.filter fun t => (Category.ofNormal? t).isNone

/-- The selection of a setting. -/
def ofSetting : Option String → Selection
  | none => everything
  | some raw =>
    if Text.isBlank raw then everything
    else
      let tokens := tokens raw
      let enabled := named tokens
      if enabled = [] then ⟨Category.all, unknown tokens, true⟩
      else ⟨enabled, unknown tokens, false⟩

/-- What is reported while a setting is read. -/
def events : Option String → List Event
  | none => []
  | some raw =>
    if Text.isBlank raw then []
    else
      let tokens := tokens raw
      (unknown tokens).map Event.unknownCategory
        ++ if named tokens = [] then [Event.noValidCategory raw] else []

end Selection

end SuiteBridge
