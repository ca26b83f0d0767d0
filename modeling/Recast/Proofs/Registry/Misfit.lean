import Recast.Proofs.Registry.Modes
import Recast.Proofs.Value.Embedding
import Recast.Proofs.Value.Encoding
set_option autoImplicit false

/-!
Converters that give what the type asked for cannot hold. A value of another shape is reported about the input. A
number beyond its type, wherever it stands, is reported about itself, and the input goes unmentioned.
-/

namespace Recast

namespace Form

inductive Overflows : Form → Value → Error → Prop where
  | tooSmall {width : Scalar.Width} {n : Int64} (narrow : width ≠ .bits64) (small : n.toInt < width.low) :
    Overflows (.scalar (.int width)) (.int n)
      (.ofFault (Scalar.int width).descriptor (.int n) (.integer .tooSmall))
  | tooLarge {width : Scalar.Width} {n : Int64} (narrow : width ≠ .bits64) (large : width.high < n.toInt) :
    Overflows (.scalar (.int width)) (.int n)
      (.ofFault (Scalar.int width).descriptor (.int n) (.integer .tooLarge))
  | item {form : Form} {before after : List Value} {item : Value} {error : Error} {taken : List form.Carrier}
      (earlier : before.mapM Typed.extract = .ok taken) (inside : Overflows form item error) :
    Overflows (.list form) (.array (before ++ item :: after)) error
  | inner {form : Form} {value : Value} {error : Error} (present : value ≠ .null)
      (inside : Overflows form value error) : Overflows (.option form) value error

end Form

def Error.IsShape (error : Error) : Prop := ∃ target found, error = .shape target found

theorem of_fault_not_shape (target : Descriptor) (value : Value) (fault : Fault) :
    ¬ (Error.ofFault target value fault).IsShape := nofun

namespace Value

theorem to_json_error {value : Value} {error : Error} (failed : toJson value = .error error) : error.IsShape := by
  obtain ⟨part, found, -, -, same⟩ := to_json_walks.error_reported failed
  exact ⟨_, _, same.symm⟩

end Value

namespace Typed

theorem narrow_error_iff {width : Scalar.Width} (narrow : width ≠ .bits64) (value : Value) (error : Error) :
    extract (α := (Scalar.int width).Carrier) value = .error error ↔ extractWidth width value = .error error := by
  cases width with
  | bits64 => exact absurd rfl narrow
  | bits8 | bits16 | bits32 => exact Traversal.map_error_iff

theorem extract_width_error {width : Scalar.Width} (narrow : width ≠ .bits64) {out : Value} {error : Error}
    (failed : extractWidth width out = .error error) :
    error.IsShape ∨ Form.Overflows (.scalar (.int width)) out error := by
  cases out with
  | int n =>
    rw [extractWidth, extractWord] at failed
    split at failed
    · next small =>
      cases failed
      exact .inr (.tooSmall narrow small)
    · split at failed
      · next large =>
        cases failed
        exact .inr (.tooLarge narrow large)
      · cases failed
  | _ =>
    cases failed
    exact .inl ⟨_, _, rfl⟩

theorem extract_scalar_error (scalar : Scalar) {out : Value} {error : Error}
    (failed : extract (α := scalar.Carrier) out = .error error) :
    error.IsShape ∨ Form.Overflows (.scalar scalar) out error := by
  cases scalar with
  | int width =>
    by_cases narrow : width = .bits64
    · subst narrow
      cases out with
      | int n => cases failed
      | _ => exact .inl ⟨_, _, (Except.error.inj failed).symm⟩
    · exact extract_width_error narrow ((narrow_error_iff narrow out error).mp failed)
  | float format =>
    cases format with
    | single | double =>
      cases out with
      | float x => cases failed
      | _ => exact .inl ⟨_, _, (Except.error.inj failed).symm⟩
  | _ =>
    cases out <;> first
      | cases failed; done
      | exact .inl ⟨_, _, (Except.error.inj failed).symm⟩

end Typed

namespace Form

theorem list_error_iff (form : Form) (items : List Value) (error : Error) :
    Typed.extract (α := form.list.Carrier) (.array items) = .error error ↔
      items.mapM (Typed.extract (α := form.Carrier)) = .error error := by
  rw [← Typed.extract_items_eq]
  exact Iff.rfl

theorem option_error_iff (form : Form) {value : Value} (present : value ≠ .null) (error : Error) :
    Typed.extract (α := form.option.Carrier) value = .error error ↔
      Typed.extract (α := form.Carrier) value = .error error := by
  have same : Typed.extract (α := form.option.Carrier) value = (Typed.extract (α := form.Carrier) value).map some :=
    Typed.extract_present present
  rw [same]
  exact Traversal.map_error_iff

theorem overflows_of_error (form : Form) {out : Value} {error : Error}
    (failed : Typed.extract (α := form.Carrier) out = .error error) : error.IsShape ∨ form.Overflows out error := by
  induction form generalizing out with
  | scalar leaf => exact Typed.extract_scalar_error leaf failed
  | json => exact .inl (Value.to_json_error failed)
  | list item ih =>
    cases out with
    | array items =>
      rw [list_error_iff, Traversal.mapM_error_iff] at failed
      obtain ⟨before, first, after, taken, rfl, earlier, failed⟩ := failed
      exact (ih failed).imp_right (.item earlier)
    | _ => exact .inl ⟨_, _, (Except.error.inj failed).symm⟩
  | option inner ih =>
    by_cases null : out = .null
    · subst null
      cases failed
    · rw [option_error_iff inner null] at failed
      exact (ih failed).imp_right (.inner null)

theorem Overflows.extract_error {form : Form} {out : Value} {error : Error} (overflows : form.Overflows out error) :
    Typed.extract (α := form.Carrier) out = .error error ∧ ¬ error.IsShape := by
  induction overflows with
  | @tooSmall width n narrow small =>
    refine ⟨(Typed.narrow_error_iff narrow _ _).mpr ?_, of_fault_not_shape _ _ _⟩
    rw [Typed.extractWidth, Typed.extractWord, if_pos small]
  | @tooLarge width n narrow large =>
    have order : width.low < width.high := by cases width <;> decide
    refine ⟨(Typed.narrow_error_iff narrow _ _).mpr ?_, of_fault_not_shape _ _ _⟩
    rw [Typed.extractWidth, Typed.extractWord, if_neg (by omega), if_pos large]
  | @item form before after item error taken earlier inside ih =>
    refine ⟨?_, ih.2⟩
    rw [list_error_iff, Traversal.mapM_error_iff]
    exact ⟨before, item, after, taken, rfl, earlier, ih.1⟩
  | inner present inside ih => exact ⟨(option_error_iff _ present _).mpr ih.1, ih.2⟩

end Form

namespace Registry

variable {α : Type} [Typed α]

theorem take_misfit (input : Value) {out : Value} {error : Error} (something : out ≠ .null)
    (misfit : Typed.extract (α := α) out = .error error) :
    (error.IsShape → take α input out = .error (.ofUnfit (Typed.descriptor α) input error)) ∧
    (¬ error.IsShape → take α input out = .error error) := by
  rw [take_present something, misfit]
  constructor
  · rintro ⟨target, found, rfl⟩
    rfl
  · intro other
    cases error with
    | shape target found => exact absurd ⟨target, found, rfl⟩ other
    | _ => rfl

theorem convert_to_untaken {registry : Registry} {value out : Value} {error : Error} (present : value ≠ .null)
    (given : registry.convert (Typed.descriptor α) value = .ok out) (untaken : take α value out = .error error) :
    registry.convertTo α value = .error error := by
  rw [convert_to_eq, produce_present registry value (Value.is_null_false_iff.mpr present), given, Except.bind, untaken]

theorem misfit_reported (form : Form) (registry : Registry) {value out : Value} {error : Error}
    (present : value ≠ .null) (given : registry.convert (Typed.descriptor form.Carrier) value = .ok out)
    (something : out ≠ .null) (misfit : Typed.extract (α := form.Carrier) out = .error error) :
    (¬ form.Overflows out error →
      registry.convertTo form.Carrier value = .error (.ofUnfit (Typed.descriptor form.Carrier) value error)) ∧
    (form.Overflows out error → registry.convertTo form.Carrier value = .error error) := by
  obtain ⟨shape, other⟩ := take_misfit value something misfit
  constructor
  · intro fits
    exact convert_to_untaken present given (shape ((form.overflows_of_error misfit).resolve_right fits))
  · intro overflows
    exact convert_to_untaken present given (other overflows.extract_error.2)

def constant (registry : Registry) (target : Descriptor) (out : Value) : Registry :=
  registry.put target (.custom 0 fun _ _ _ => .done (.ok out))

theorem missing_item_reported :
    let registry := (new .default).constant (.arrayOf (Scalar.int .bits8).descriptor) (.array [.int 1, .null])
    registry.convertTo (List Int8) (.str "1,") =
      .error (.ofUnfit (.arrayOf (Scalar.int .bits8).descriptor) (.str "1,")
        (.shape (Scalar.int .bits8).descriptor "null")) := by
  intro registry
  have given : registry.convert (Typed.descriptor (List Int8)) (.str "1,") = .ok (.array [.int 1, .null]) := rfl
  have misfit : Typed.extract (α := List Int8) (.array [.int 1, .null]) =
      .error (.shape (Scalar.int .bits8).descriptor "null") := rfl
  have present : Value.str "1," ≠ .null := nofun
  have something : Value.array [.int 1, .null] ≠ .null := nofun
  have reported := misfit_reported (.list (.scalar (.int .bits8))) registry present given something misfit
  exact reported.1 fun overflows => overflows.extract_error.2 ⟨_, _, rfl⟩

theorem great_number_names_itself :
    let registry := (new .default).constant (Scalar.int .bits8).descriptor (.int 300)
    let misfit := Error.ofFault (Scalar.int .bits8).descriptor (.int 300) (.integer .tooLarge)
    registry.convert (Typed.descriptor Int8) (.str "x") = .ok (.int 300) ∧
      Typed.extract (α := Int8) (.int 300) = .error misfit ∧
      registry.convertTo Int8 (.str "x") = .error misfit ∧
      registry.convertTo Int8 (.str "x") ≠ .error (.ofUnfit (Typed.descriptor Int8) (.str "x") misfit) :=
  ⟨rfl, rfl, rfl, nofun⟩

end Registry

end Recast
