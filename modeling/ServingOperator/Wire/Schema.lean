import ServingOperator.Wire.Format

namespace ServingOperator

def quantityExplanation : String := "\n\n".intercalate [
  "Quantity is a fixed-point representation of a number. It provides convenient " ++
    "marshaling/unmarshaling in JSON and YAML, in addition to String() and AsInt64() accessors.",
  "The serialization format is:",
  "\x60\x60\x60 <quantity>        ::= <signedNumber><suffix>",
  "\t(Note that <suffix> may be empty, from the \"\" case in <decimalSI>.)",
  "<digit>           ::= 0 | 1 | ... | 9 <digits>          ::= <digit> | <digit><digits> " ++
    "<number>          ::= <digits> | <digits>.<digits> | <digits>. | .<digits> " ++
    "<sign>            ::= \"+\" | \"-\" <signedNumber>    ::= <number> | <sign><number> " ++
    "<suffix>          ::= <binarySI> | <decimalExponent> | <decimalSI> <binarySI>        ::= " ++
    "Ki | Mi | Gi | Ti | Pi | Ei",
  "\t(International System of units; See: http://physics.nist.gov/cuu/Units/binary.html)",
  "<decimalSI>       ::= m | \"\" | k | M | G | T | P | E",
  "\t(Note that 1024 = 1Ki but 1000 = 1k; I didn't choose the capitalization.)",
  "<decimalExponent> ::= \"e\" <signedNumber> | \"E\" <signedNumber> \x60\x60\x60",
  "No matter which of the three exponent forms is used, no quantity may represent a number " ++
    "greater than 2^63-1 in magnitude, nor may it have more than 3 decimal places. Numbers " ++
    "larger or more precise will be capped or rounded up. (E.g.: 0.1m will rounded up to 1m.) " ++
    "This may be extended in the future if we require larger or smaller quantities.",
  "When a Quantity is parsed from a string, it will remember the type of suffix it had, and " ++
    "will use the same type again when it is serialized.",
  "Before serializing, Quantity will be put in \"canonical form\". This means that " ++
    "Exponent/suffix will be adjusted up or down (with a corresponding increase or decrease in " ++
    "Mantissa) such that:",
  "- No precision is lost - No fractional digits will be emitted - The exponent (or suffix) is " ++
    "as large as possible.",
  "The sign will be omitted unless the number is negative.",
  "Examples:",
  "- 1.5 will be serialized as \"1500m\" - 1.5Gi will be serialized as \"1536Mi\"",
  "Note that the quantity will NEVER be internally represented by a floating point number. That " ++
    "is the whole point of this exercise.",
  "Non-canonical values will still parse as long as they are well formed, but will be " ++
    "re-emitted in their canonical form. (So always use canonical form, or don't diff.)",
  "This format is intended to make it difficult to use these numbers without writing some sort " ++
    "of special handling code in the hopes that that will cause implementors to also use a " ++
    "fixed point implementation."]

def portRefExplanation : String :=
  "IntOrString is a type that can hold an int32 or a string.  When used in JSON or YAML " ++
    "marshalling and unmarshalling, it produces or consumes the inner type.  This allows you to " ++
    "have, for example, a JSON field that can accept a name or number."

namespace Json

def setMember (key : String) (value : Json) (members : List (String × Json)) :
    List (String × Json) :=
  members.filter (·.1 ≠ key) ++ [(key, value)]

def allowNull (schema : List (String × Json)) : List (String × Json) :=
  let schema := schema.map fun
    | ("enum", .arr values) => ("enum", .arr (values ++ [.null]))
    | m => m
  setMember "nullable" (.bool true) schema

def numberOrText (explanation : String) : List (String × Json) :=
  [("description", .str explanation), ("x-kubernetes-int-or-string", .bool true)]

def sortedTexts (texts : List String) : List Json :=
  (StringMap.ofList (texts.map (·, ()))).entries.map (.str ·.1)

end Json

mutual

def Format.schema : {α : Type} → Format α → List (String × Json)
  | _, .text => [("type", .str "string")]
  | _, .flag => [("type", .str "boolean")]
  | _, .int32 => [("type", .str "integer"), ("format", .str "int32")]
  | _, .int64 => [("type", .str "integer"), ("format", .str "int64")]
  | _, .quantity => Json.numberOrText quantityExplanation
  | _, .portRef => Json.numberOrText portRefExplanation
  | _, .timestamp => [("type", .str "string"), ("format", .str "date-time")]
  | _, .choice all name _ =>
    [("type", .str "string"), ("enum", .arr (all.map fun a => .str (name a)))]
  | _, .list item => [("type", .str "array"), ("items", .obj item.schema)]
  | _, .dict item => [("type", .str "object"), ("additionalProperties", .obj item.schema)]
  | _, .record _ _ fields =>
    let required := fields.requiredKeys
    [("type", .str "object"), ("properties", .obj fields.properties)] ++
      (if required = [] then [] else [("required", .arr (Json.sortedTexts required))])
  | _, .image inner _ _ _ => inner.schema
  | _, .described about inner => Json.setMember "description" (.str about) inner.schema

def Member.schema : {α : Type} → Member α → List (String × Json)
  | _, .required format => format.schema
  | _, .defaulted format value omitted _ =>
    if omitted value then format.schema
    else format.schema ++ [("default", format.encode value)]
  | _, .optional format => Json.allowNull format.schema

def Fields.properties : {α : Type} → Fields α → List (String × Json)
  | _, .nil => []
  | _, .cons key about member rest =>
    let schema := member.schema
    let schema := match about with
      | some text => Json.setMember "description" (.str text) schema
      | none => schema
    (key, .obj schema) :: rest.properties

def Fields.requiredKeys : {α : Type} → Fields α → List String
  | _, .nil => []
  | _, .cons key _ (.required _) rest => key :: rest.requiredKeys
  | _, .cons _ _ _ rest => rest.requiredKeys

end

end ServingOperator
