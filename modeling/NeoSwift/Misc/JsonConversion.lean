import NeoSwift.Misc.Json

/-!
# Conversions that may throw

`JsonByMetaClass::convertFromJson` with its exceptions. An object is converted member by
member, and an exception leaves what the members before it have written. That is the state a
conversion has besides its result.

A required member that is missing is what is thrown for. Where no member is required and no
value of a member throws, the whole conversion does not, whatever the JSON object is.

## Main definitions

* `CJsonException`: An exception, with the place in the object tree.
* `Conversion`: A conversion of an object in place.
* `JsonMetaMember`, `convertByMetaClass`: Members and the conversion of all of them.
* `inMember`: The conversion of a member.
* `ReadsAs`: A conversion that does not throw, with what it does.

## Theorems

* `readsAs_convertByMetaClass`: Members that do not throw make an object that does not.
-/

namespace NeoSwift.Misc

/-- The message and the stack trace. -/
structure CJsonException where
  what : QString
  stack : QString
  deriving DecidableEq

/-- The names of the scopes, the outermost first. -/
def stackString (scopes : QStringList) : QString :=
  if scopes = [] then "<document root>" else ".".toList.intercalate scopes

/-- What it does to an object, which it may leave half done. -/
abbrev Conversion (α : Type) : Type → Type := EStateM CJsonException α

/-- A member of a meta class, read in its scope. -/
structure JsonMetaMember (α : Type) where
  name : QString
  requiredForJson : Bool := false
  read : QJsonValue → QStringList → Conversion α Unit

variable {α β : Type}

def JsonMetaMember.convert (json : QJsonObject) (scopes : QStringList) (member : JsonMetaMember α) :
    Conversion α Unit :=
  match json.value member.name with
  | none =>
      if member.requiredForJson then
        throw ⟨"Missing required member '" ++ member.name ++ ['\''], stackString scopes⟩
      else pure ()
  | some value => member.read value (scopes ++ [member.name])

def convertByMetaClass (json : QJsonObject) (scopes : QStringList) :
    List (JsonMetaMember α) → Conversion α Unit
  | [] => pure ()
  | member :: members => do
    member.convert json scopes
    convertByMetaClass json scopes members

/-- The conversion of a part of an object. -/
def inMember (get : α → β) (set : β → α → α) (conversion : Conversion β Unit) : Conversion α Unit :=
  fun a =>
    match conversion (get a) with
    | .ok _ b => .ok () (set b a)
    | .error ex b => .error ex (set b a)

/-- The object after the exceptions have been caught. -/
def stateOf : EStateM.Result CJsonException α Unit → α
  | .ok _ a => a
  | .error _ a => a

/-- A conversion that never throws. -/
def ReadsAs (conversion : Conversion α Unit) (f : α → α) : Prop := ∀ a, conversion a = .ok () (f a)

theorem readsAs_pure : ReadsAs (pure () : Conversion α Unit) id := fun _ => rfl

theorem ReadsAs.andThen {first second : Conversion α Unit} {f g : α → α} (hf : ReadsAs first f)
    (hg : ReadsAs second g) : ReadsAs (do first; second) (g ∘ f) := by
  intro a
  change EStateM.bind first (fun _ => second) a = _
  unfold EStateM.bind
  rw [hf a]
  exact hg (f a)

theorem ReadsAs.inMember {get : α → β} {set : β → α → α} {conversion : Conversion β Unit}
    {f : β → β} (h : ReadsAs conversion f) :
    ReadsAs (inMember get set conversion) (fun a => set (f (get a)) a) := by
  intro a
  unfold Misc.inMember
  rw [h (get a)]

/-- A member that does not throw, and the member it reads like. -/
structure JsonMetaMember.ReadsAs (member : JsonMetaMember α) (total : JsonMember α) : Prop where
  name : member.name = total.name
  optional : member.requiredForJson = false
  read : ∀ value scopes, Misc.ReadsAs (member.read value scopes) (total.read value)

theorem JsonMetaMember.ReadsAs.convert {member : JsonMetaMember α} {total : JsonMember α}
    (h : member.ReadsAs total) {json : QJsonObject} {scopes : QStringList} :
    Misc.ReadsAs (member.convert json scopes)
      (fun a => ((json.value total.name).map (fun v => total.read v a)).getD a) := by
  intro a
  unfold JsonMetaMember.convert
  rw [h.name]
  cases json.value total.name with
  | none =>
    rw [h.optional]
    rfl
  | some value => exact h.read value _ a

/-- Members that do not throw make an object that does not. -/
theorem readsAs_convertByMetaClass (json : QJsonObject) (scopes : QStringList)
    {members : List (JsonMetaMember α)} {total : List (JsonMember α)}
    (h : List.Forall₂ JsonMetaMember.ReadsAs members total) :
    ReadsAs (convertByMetaClass json scopes members) (convertFromJson total json) := by
  induction h with
  | nil => exact readsAs_pure
  | cons hmember _ ih => exact hmember.convert.andThen ih

end NeoSwift.Misc
