import LoadAtlas.Json.Record

/-!
# Configurations in JSON

A configuration is written as an object of its fields, one to a line.  It is read from any
object or list of words; fields that are not given keep their standard values, unknown names
are refused, and so is a configuration that is not sound.
-/

namespace LoadAtlas
namespace Config

/-- What the value of a field is called where another value was found. -/
def Field.wordName : Field → String
  | .bucketPrecision => "usize"
  | _ => "u64"

def Field.slot (field : Field) : Json.Slot Config :=
  .of field.name (Json.readWord field.wordName) fun config value => config.set field value

def record : Json.Record Config where
  title := "Config"
  blank := standard
  slots := fields.map Field.slot
  closed := true
  lenient := true

def ofJson (text : String) : Except Json.Fault Config := do
  (← record.ofText text).check.mapError fun fault => .misfit (.refused fault)

/-- The line of a field in the written form, without its end. -/
def jsonLine (config : Config) (field : Field) : List Char :=
  [' ', ' '] ++ Json.writeText field.name ++ [':', ' '] ++
    Nat.toDigits 10 (config.get field).toNat

def toJson (config : Config) : String :=
  String.ofList (['\x7b', '\n'] ++
    [',', '\n'].intercalate (fields.map config.jsonLine) ++ ['\n', '\x7d'])

end Config
end LoadAtlas
