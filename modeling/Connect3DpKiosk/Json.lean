import Connect3DpKiosk.CString

/-! # ArduinoJson documents

    The reconciler never sees the wire text: `WsHandler::_onMessage` hands
    the payload to ArduinoJson 6's `deserializeJson` and from then on reads
    the document only through a handful of `JsonVariantConst` and
    `JsonObjectConst` operations. This module models the document and those
    operations, each under the name of the C++ call it stands for:

    * `obj["Key"]` — `getMember`, with `GetElem` instances so that the
      model reads `state["Status"]` as the source does;
    * `const char* s = v` — `asString`;
    * `v | false`, `v | 0` — `orBool`, `orInt`;
    * `v.isNull()`, `v.is<JsonObject>()`, `v.as<JsonObjectConst>()` —
      `isNull`, `isJsonObject`, `asObject`.

    `ws_handler.h` asks only for "ArduinoJson v6", and the releases of v6
    disagree on the one call the sketch's every object test makes,
    `is<JsonObject>()` on a `JsonVariantConst`. Up to 6.17 it tests for an
    object. From 6.18 on it is `false` for every `JsonVariantConst`, since a
    read-only variant cannot give the writable `JsonObject`; the object test
    of that library is `is<JsonObjectConst>()`, here `isObject`. The
    release is therefore a parameter of the model, `ArduinoJson`, and
    `isJsonObject` answers as the release does. The Library Manager's
    `ArduinoJson` 6 installs a release of the second kind.
-/

namespace Connect3DpKiosk

/-! ## Documents -/

/-- A JSON value as ArduinoJson 6 holds it after `deserializeJson`. Numbers
    with a fraction or an exponent are kept apart from integers, since
    `is<int>()` tells the two apart. Object members keep document order;
    lookups take the first member of a name. -/
inductive JsonVariant where
  | null
  | bool (b : Bool)
  | int (n : Int)
  | float (mantissa exponent : Int)
  | string (s : CStr)
  | array (elems : List JsonVariant)
  | object (members : List (String × JsonVariant))
  deriving Repr

/-- A `JsonObjectConst`: the members of an object, none for the null object. -/
structure JsonObjectConst where
  /-- The `(key, value)` members in document order. -/
  members : List (String × JsonVariant)
  deriving Repr

/-- `obj[key]`: the first member named `key`, null when there is none. -/
def JsonObjectConst.getMember (o : JsonObjectConst) (key : String) : JsonVariant :=
  match o.members.find? (·.1 = key) with
  | some m => m.2
  | none => .null

/-- `variant[key]`: a member when the variant is an object, null otherwise. -/
def JsonVariant.getMember : JsonVariant → String → JsonVariant
  | .object ms, key => (JsonObjectConst.mk ms).getMember key
  | _, _ => .null

instance : GetElem JsonObjectConst String JsonVariant (fun _ _ => True) where
  getElem o key _ := o.getMember key

instance : GetElem JsonVariant String JsonVariant (fun _ _ => True) where
  getElem v key _ := v.getMember key

@[simp] theorem JsonObjectConst.getElem_nil (key : String) :
    (JsonObjectConst.mk [])[key] = .null := rfl

@[simp] theorem JsonObjectConst.getElem_cons (k key : String) (v : JsonVariant)
    (ms : List (String × JsonVariant)) :
    (JsonObjectConst.mk ((k, v) :: ms))[key] = if k = key then v else (JsonObjectConst.mk ms)[key] := by
  by_cases h : k = key <;> simp [GetElem.getElem, JsonObjectConst.getMember, List.find?, h]

@[simp] theorem JsonVariant.getElem_object (ms : List (String × JsonVariant)) (key : String) :
    (JsonVariant.object ms)[key] = (JsonObjectConst.mk ms)[key] := rfl

/-! ## Reading a variant -/

/-- `variant.isNull()`: a missing member reads as null as well. -/
def JsonVariant.isNull : JsonVariant → Bool
  | .null => true
  | _ => false

/-- The variant holds an object: what `is<JsonObjectConst>()` answers in
    every ArduinoJson 6 release. -/
def JsonVariant.isObject : JsonVariant → Bool
  | .object _ => true
  | _ => false

/-- The ArduinoJson 6 releases, told apart by what the sketch can see of
    them: `JsonVariantConst::is<JsonObject>()`. -/
inductive ArduinoJson where
  /-- ArduinoJson 6.0 to 6.17: `is<JsonObject>()` tests for an object. -/
  | upTo6_17
  /-- ArduinoJson 6.18 and later: `is<JsonObject>()` is `false` on every
      `JsonVariantConst`. -/
  | from6_18
  deriving DecidableEq, Repr

/-- `variant.is<JsonObject>()` on a `JsonVariantConst`, as release `lib`
    answers it. -/
def JsonVariant.isJsonObject (lib : ArduinoJson) (v : JsonVariant) : Bool :=
  match lib with
  | .upTo6_17 => v.isObject
  | .from6_18 => false

/-- `variant.as<JsonObjectConst>()`: the members of an object, the null
    object for any other variant. -/
def JsonVariant.asObject : JsonVariant → JsonObjectConst
  | .object ms => ⟨ms⟩
  | _ => ⟨[]⟩

/-- `const char* s = variant`: the string, or a null pointer for any other
    variant. -/
def JsonVariant.asString : JsonVariant → Option CStr
  | .string s => some s
  | _ => none

/-- `variant | d` with a `bool` default: the boolean held, `d` for any other
    variant. -/
def JsonVariant.orBool : JsonVariant → Bool → Bool
  | .bool b, _ => b
  | _, d => d

/-- `INT_MIN` on the ESP32, whose `int` has 32 bits. -/
def intMin : Int := -2147483648

/-- `INT_MAX` on the ESP32. -/
def intMax : Int := 2147483647

/-- `variant.is<int>() ? variant.as<int>() : none`: an integer that `int`
    can hold. -/
def JsonVariant.asInt? : JsonVariant → Option Int
  | .int n => if intMin ≤ n ∧ n ≤ intMax then some n else none
  | _ => none

/-- `variant | d` with an `int` default. -/
def JsonVariant.orInt (v : JsonVariant) (d : Int) : Int := v.asInt?.getD d

@[simp] theorem JsonVariant.isNull_object (ms : List (String × JsonVariant)) :
    (JsonVariant.object ms).isNull = false := rfl

@[simp] theorem JsonVariant.isObject_object (ms : List (String × JsonVariant)) :
    (JsonVariant.object ms).isObject = true := rfl

@[simp] theorem JsonVariant.asObject_object (ms : List (String × JsonVariant)) :
    (JsonVariant.object ms).asObject = ⟨ms⟩ := rfl

@[simp] theorem JsonVariant.asString_string (s : CStr) :
    (JsonVariant.string s).asString = some s := rfl

@[simp] theorem JsonVariant.asString_null : JsonVariant.null.asString = none := rfl

@[simp] theorem JsonVariant.orBool_bool (b d : Bool) : (JsonVariant.bool b).orBool d = b := rfl

@[simp] theorem JsonVariant.orBool_null (d : Bool) : JsonVariant.null.orBool d = d := rfl

@[simp] theorem JsonVariant.orInt_null (d : Int) : JsonVariant.null.orInt d = d := rfl

/-- A member of a variant is the member of the object it reads as: the null
    object has none, as a non-object variant has none. -/
theorem JsonVariant.getElem_eq_asObject (v : JsonVariant) (key : String) :
    v[key] = v.asObject[key] := by
  cases v <;> rfl

theorem JsonVariant.asString_eq_some_iff {v : JsonVariant} {s : CStr} :
    v.asString = some s ↔ v = .string s := by
  cases v <;> simp [JsonVariant.asString]

/-- A flag read with `| false` is set exactly when it is the JSON `true`. -/
theorem JsonVariant.orBool_false_iff {v : JsonVariant} : v.orBool false = true ↔ v = .bool true := by
  cases v <;> simp [JsonVariant.orBool]

section release
variable (lib : ArduinoJson) (v : JsonVariant)

@[simp] theorem JsonVariant.isJsonObject_upTo6_17 : v.isJsonObject .upTo6_17 = v.isObject := rfl

@[simp] theorem JsonVariant.isJsonObject_from6_18 : v.isJsonObject .from6_18 = false := rfl

/-- Whatever the release, `is<JsonObject>()` passes only objects. -/
theorem JsonVariant.isObject_of_isJsonObject {lib : ArduinoJson} {v : JsonVariant}
    (h : v.isJsonObject lib = true) : v.isObject = true := by
  cases lib
  · exact h
  · exact absurd h Bool.false_ne_true

/-- The object test the code writes as `!v.isNull() && v.is<JsonObject>()`. -/
@[simp] theorem JsonVariant.notNull_and_isJsonObject :
    (!v.isNull && v.isJsonObject lib) = v.isJsonObject lib := by
  cases lib <;> cases v <;> rfl

/-- Its negation, `v.isNull() || !v.is<JsonObject>()`. -/
@[simp] theorem JsonVariant.isNull_or_not_isJsonObject :
    (v.isNull || !v.isJsonObject lib) = !v.isJsonObject lib := by
  cases lib <;> cases v <;> rfl

end release

/-- A variant that holds an object is the object `asObject` reads. -/
theorem JsonVariant.eq_object_of_isObject {v : JsonVariant} (h : v.isObject = true) :
    v = .object v.asObject.members := by
  cases v <;> simp_all [JsonVariant.isObject, JsonVariant.asObject]

/-- `| d` is idempotent: reading the same variant over its own result. -/
@[simp] theorem JsonVariant.orInt_orInt (v : JsonVariant) (d : Int) :
    v.orInt (v.orInt d) = v.orInt d := by
  cases h : v.asInt? <;> simp [JsonVariant.orInt, h]

end Connect3DpKiosk
