import Recast.Proofs.Traversal
import Recast.Typed
set_option autoImplicit false

namespace Recast.Scalar

def Carrier : Scalar → Type
  | .bool => Bool
  | .char => Char
  | .int .bits8 => Int8
  | .int .bits16 => Int16
  | .int .bits32 => Int32
  | .int .bits64 => Int64
  | .float .single => Single
  | .float .double => Double
  | .string => String
  | .bigInteger => Int
  | .decimal => Decimal
  | .path => Path
  | .duration => Duration
  | .url => Url
  | .dateTime => DateTime

instance typed : (scalar : Scalar) → Typed scalar.Carrier
  | .bool => inferInstanceAs (Typed Bool)
  | .char => inferInstanceAs (Typed Char)
  | .int .bits8 => inferInstanceAs (Typed Int8)
  | .int .bits16 => inferInstanceAs (Typed Int16)
  | .int .bits32 => inferInstanceAs (Typed Int32)
  | .int .bits64 => inferInstanceAs (Typed Int64)
  | .float .single => inferInstanceAs (Typed Single)
  | .float .double => inferInstanceAs (Typed Double)
  | .string => inferInstanceAs (Typed String)
  | .bigInteger => inferInstanceAs (Typed Int)
  | .decimal => inferInstanceAs (Typed Decimal)
  | .path => inferInstanceAs (Typed Path)
  | .duration => inferInstanceAs (Typed Duration)
  | .url => inferInstanceAs (Typed Url)
  | .dateTime => inferInstanceAs (Typed DateTime)

theorem carrier_descriptor (scalar : Scalar) : Typed.descriptor scalar.Carrier = scalar.descriptor := by
  cases scalar with
  | int width => cases width <;> rfl
  | float format => cases format <;> rfl
  | _ => rfl

def Holds : Scalar → Value → Prop
  | .bool, .bool _ => True
  | .char, .char _ => True
  | .int width, .int n => width.low ≤ n.toInt ∧ n.toInt ≤ width.high
  | .float _, .float _ => True
  | .string, .str _ => True
  | .bigInteger, .bigInt _ => True
  | .decimal, .decimal _ => True
  | .path, .path _ => True
  | .duration, .duration _ => True
  | .url, .url _ => True
  | .dateTime, .dateTime _ => True
  | _, _ => False

theorem extract_width_ok_iff (width : Width) (value : Value) (n : Int) :
    Typed.extractWidth width value = .ok n ↔
      ∃ word : Int64, value = .int word ∧ word.toInt = n ∧ width.low ≤ n ∧ n ≤ width.high := by
  constructor
  · intro taken
    cases value with
    | int word =>
      rw [Typed.extractWidth, Typed.extractWord] at taken
      by_cases below : word.toInt < width.low
      · rw [if_pos below] at taken
        cases taken
      · rw [if_neg below] at taken
        by_cases above : width.high < word.toInt
        · rw [if_pos above] at taken
          cases taken
        · rw [if_neg above] at taken
          cases taken
          exact ⟨word, rfl, rfl, Int.not_lt.mp below, Int.not_lt.mp above⟩
    | _ => cases taken
  · rintro ⟨word, rfl, rfl, low, high⟩
    rw [Typed.extractWidth, Typed.extractWord, if_neg (Int.not_lt.mpr low), if_neg (Int.not_lt.mpr high)]

theorem extract_width_iff {α : Type} (width : Width) (make : Int → α) (value : Value) :
    (∃ x, (Typed.extractWidth width value).map make = .ok x) ↔ Holds (.int width) value := by
  simp only [Traversal.map_ok_iff, extract_width_ok_iff]
  cases value <;> simp [Holds]

theorem width_within_word (width : Width) : -2 ^ 63 ≤ width.low ∧ width.high < 2 ^ 63 := by
  cases width <;> decide

theorem word_in_range (n : Int64) : Width.low .bits64 ≤ n.toInt ∧ n.toInt ≤ Width.high .bits64 := by
  have low := Int64.le_toInt n
  have high := Int64.toInt_lt n
  simp only [Width.low, Width.high, Width.bits]
  omega

theorem not_taken {α : Type} {error : Error} : ¬ ∃ x : α, Except.error error = .ok x := by
  simp

theorem extract_iff (scalar : Scalar) (value : Value) :
    (∃ x : scalar.Carrier, Typed.extract value = .ok x) ↔ scalar.Holds value := by
  cases scalar with
  | int width =>
    cases width with
    | bits64 =>
      -- No range is tested here, because every word is in the range of the widest type.
      cases value with
      | int n => exact iff_of_true ⟨n, rfl⟩ (word_in_range n)
      | _ => exact iff_of_false not_taken id
    | bits8 | bits16 | bits32 => exact extract_width_iff ..
  | float format =>
    cases format with
    | single | double =>
      cases value with
      | float x => exact iff_of_true ⟨_, rfl⟩ trivial
      | _ => exact iff_of_false not_taken id
  | _ =>
    cases value <;> first
      | exact iff_of_true ⟨_, rfl⟩ trivial
      | exact iff_of_false not_taken id

inductive Yields (scalar : Scalar) : Except Reason Value → Prop where
  | null : Yields scalar (.ok .null)
  | value (value : Value) (holds : scalar.Holds value) : Yields scalar (.ok value)
  | error (reason : Reason) : Yields scalar (.error reason)

theorem yields_found {α : Type} {scalar : Scalar} {make : α → Value} {missing : Reason} {found? : Option α}
    (holds : ∀ x, scalar.Holds (make x)) : Yields scalar (found make missing found?) := by
  cases found? with
  | none => exact .error missing
  | some x => exact .value (make x) (holds x)

theorem yields_either {scalar : Scalar} {first second : Except Reason Value} {condition : Prop} [Decidable condition]
    (one : Yields scalar first) (other : Yields scalar second) :
    Yields scalar (if condition then first else second) := by
  by_cases same : condition
  · rw [if_pos same]
    exact one
  · rw [if_neg same]
    exact other

variable (config : Config) (value : Value)

theorem to_boolean_yields : Yields .bool (toBoolean config value) := by
  unfold toBoolean
  apply yields_either .null
  cases value with
  | bool b | int n | float x | bigInt n => exact .value _ trivial
  | char c | str text => exact yields_found fun _ => trivial
  | _ => exact .error _

theorem to_character_yields : Yields .char (toCharacter value) := by
  cases value with
  | null => exact .null
  | char c => exact .value _ trivial
  | str text =>
    exact yields_either .null (yields_found fun _ => trivial)
  | int n => exact yields_found fun _ => trivial
  | _ => exact .error _

theorem in_width_yields (width : Width) (n : Int64) : Yields (.int width) (inWidth width n) := by
  unfold inWidth
  by_cases outside : n.toInt < width.low ∨ width.high < n.toInt
  · rw [if_pos outside]
    exact .error _
  · rw [if_neg outside]
    rw [not_or, Int.not_lt, Int.not_lt] at outside
    exact .value _ outside

theorem to_integer_yields (width : Width) : Yields (.int width) (toInteger config width value) := by
  unfold toInteger
  apply yields_either .null
  cases word config value with
  | error reason => exact .error _
  | ok read =>
    cases read with
    | none => exact .error _
    | some n => exact in_width_yields width n

theorem in_format_yields (format : Format) (x : Double) : Yields (.float format) (inFormat format x) := by
  cases format with
  | double => exact .value _ trivial
  | single =>
    exact yields_either (.error _) (.value _ trivial)

theorem to_float_yields (format : Format) : Yields (.float format) (toFloat config format value) := by
  unfold toFloat
  apply yields_either .null
  cases double config value with
  | error reason => exact .error _
  | ok read =>
    cases read with
    | none => exact .error _
    | some x => exact in_format_yields format x

theorem to_text_yields : Yields .string (.ok (toText config value)) := by
  cases value with
  | null => exact .null
  | _ => exact .value _ trivial

theorem to_big_integer_yields : Yields .bigInteger (toBigInteger config value) := by
  unfold toBigInteger
  apply yields_either .null
  cases value with
  | bigInt n | int n | bool b => exact .value _ trivial
  | float x =>
    exact yields_either (yields_found fun _ => trivial) (.error _)
  | decimal d | str text => exact yields_found fun _ => trivial
  | _ => exact .error _

theorem to_decimal_yields : Yields .decimal (toDecimal config value) := by
  unfold toDecimal
  apply yields_either .null
  cases value with
  | decimal d | int n | bool b | bigInt n => exact .value _ trivial
  | float x =>
    exact yields_either (yields_found fun _ => trivial) (.error _)
  | str text => exact yields_found fun _ => trivial
  | _ => exact .error _

theorem to_path_yields : Yields .path (toPath config value) := by
  unfold toPath
  apply yields_either .null
  cases value with
  | path p | str text => exact .value _ trivial
  | url u =>
    exact yields_either (yields_found fun _ => trivial) (.error _)
  | _ => exact .error _

theorem to_url_yields : Yields .url (toUrl config value) := by
  unfold toUrl
  apply yields_either .null
  cases value with
  | url u => exact .value _ trivial
  | str text =>
    cases valid : Url.read (config.prepare text) with
    | ok u =>
      simp only [valid]
      exact .value _ trivial
    | error fault =>
      simp only [valid]
      exact .error _
  | path p => exact yields_found fun _ => trivial
  | _ => exact .error _

theorem to_duration_yields : Yields .duration (toDuration config value) := by
  unfold toDuration
  apply yields_either .null
  cases value with
  | duration d => exact .value _ trivial
  | int n | float x | str text => exact yields_found fun _ => trivial
  | _ => exact .error _

theorem to_date_time_yields : Yields .dateTime (toDateTime config value) := by
  unfold toDateTime
  apply yields_either .null
  cases value with
  | dateTime t => exact .value _ trivial
  | int n | str text => exact yields_found fun _ => trivial
  | _ => exact .error _

theorem read_yields (scalar : Scalar) : Yields scalar (scalar.read config value) := by
  cases scalar with
  | bool => exact to_boolean_yields config value
  | char => exact to_character_yields value
  | int width => exact to_integer_yields config value width
  | float format => exact to_float_yields config value format
  | string => exact to_text_yields config value
  | bigInteger => exact to_big_integer_yields config value
  | decimal => exact to_decimal_yields config value
  | path => exact to_path_yields config value
  | duration => exact to_duration_yields config value
  | url => exact to_url_yields config value
  | dateTime => exact to_date_time_yields config value

variable {config value} {target : Descriptor} {scalar : Scalar}

theorem convert_ok_iff {out : Value} :
    scalar.convert config target value = .ok out ↔ scalar.read config value = .ok out := by
  unfold convert
  cases scalar.read config value with
  | error reason => exact iff_of_false nofun nofun
  | ok given => simp only [Except.ok.injEq]

theorem convert_error_iff {failed : Error} : scalar.convert config target value = .error failed ↔
    ∃ reason, scalar.read config value = .error reason ∧ failed = .reject target value reason := by
  unfold convert
  cases scalar.read config value with
  | error reason => simp [eq_comm]
  | ok given => simp

theorem convert_reject_iff {reason : Reason} : scalar.convert config target value = .error (.reject target value reason) ↔
    scalar.read config value = .error reason := by
  rw [convert_error_iff]
  constructor
  · rintro ⟨_, given, same⟩
    injection same with _ _ equal
    rw [given, equal]
  · exact fun given => ⟨reason, given, rfl⟩

end Recast.Scalar
