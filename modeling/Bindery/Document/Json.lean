import Bindery.Document.Basic
import Bindery.Json.Basic

/-!
# Documents in JSON

The field names that generators of bindings rely on, in the order in which they are written.
-/

namespace Bindery

namespace View

variable {α : Type}

namespace TypeView

def toJson (accessor : α → Json) (type : TypeView α) : Json :=
  .record [
    ("name", .ofString type.name),
    ("mutable", .bool type.mutable),
    ("is_array", .bool type.isArray),
    ("acts_as_string", .bool type.actsAsString),
    ("contains_number_handle", .bool type.containsNumberHandle),
    ("ctype", .record [
      ("name", .ofString type.ctype.name),
      ("is_pointer", .bool type.ctype.isPointer)]),
    ("size_getter", .ofOption accessor type.sizeGetter),
    ("size_setter", .ofOption accessor type.sizeSetter)]

end TypeView

namespace ParameterView

def toMembers (accessor : α → Json) (parameter : ParameterView α) : List (String × Json) :=
  [("name", .ofString parameter.name), ("type", parameter.type.toJson accessor)]

end ParameterView

namespace ArgumentView

def toJson (accessor : α → Json) : ArgumentView α → Json
  | plain parameter => .record (("kind", .ofString "param") :: parameter.toMembers accessor)
  | buffer data length =>
    .record [
      ("kind", .ofString "buffer_wrapper"),
      ("buffer_param", .record (data.toMembers accessor)),
      ("length_param", .record (length.toMembers accessor))]

end ArgumentView

namespace FunctionView

def toJson (accessor : α → Json) (function : FunctionView α) : Json :=
  .record [
    ("name", .ofString function.name),
    ("cname", .ofString function.cname),
    ("return_type", .record [
      ("type", function.ret.type.toJson accessor),
      ("replaced", .ofOption (·.toJson accessor) function.ret.replaced),
      ("param_index", .ofOption Json.ofNat function.ret.promotedFrom)]),
    ("params", .ofList (·.toJson accessor) function.params),
    ("throws", .ofOption Json.ofString function.throws),
    ("is_static", .bool function.isStatic)]

end FunctionView

namespace AccessorView

def toJson (accessor : AccessorView) : Json :=
  .record [
    ("class", .ofOption Json.ofString accessor.className),
    ("property", .ofOption Json.ofString accessor.property),
    ("detached", .bool accessor.isDetached),
    ("function", accessor.function.toJson Empty.elim)]

end AccessorView

namespace HandleView

def toJson : HandleView → Json
  | native alloc dealloc =>
    .record [
      ("kind", .ofString "native"),
      ("alloc_func", .ofOption (·.toJson AccessorView.toJson) alloc),
      ("dealloc_func", .ofOption (·.toJson AccessorView.toJson) dealloc)]
  | number type =>
    .record [("kind", .ofString "number"), ("type", type.toJson AccessorView.toJson)]
  | none => .record [("kind", .ofString "none")]

end HandleView

namespace PropertyView

def toJson (property : PropertyView) : Json :=
  .record [
    ("name", .ofString property.name),
    ("is_static", .bool property.isStatic),
    ("getter", property.getter.toJson AccessorView.toJson),
    ("setter", .ofOption (·.toJson AccessorView.toJson) property.setter)]

end PropertyView

namespace ClassView

mutual

def toJson (c : ClassView) : Json :=
  match c with
  | { name, isCallback, handle, defaultInit, properties, functions, inner } =>
    .record [
      ("name", .ofString name),
      ("is_callback", .bool isCallback),
      ("handle", handle.toJson),
      ("default_init", .ofOption (·.toJson AccessorView.toJson) defaultInit),
      ("properties", .ofList PropertyView.toJson properties),
      ("functions", .ofList (·.toJson AccessorView.toJson) functions),
      ("inner_classes", .array (toJsonList inner))]

def toJsonList : List ClassView → List Json
  | [] => []
  | c :: classes => toJson c :: toJsonList classes

end

end ClassView

end View

namespace Enumeration

def toJson (enumeration : Enumeration) : Json :=
  .record [
    ("name", .ofString enumeration.name),
    ("cname", .ofString enumeration.cname),
    ("values", .ofList (fun value => .record [
      ("name", .ofString value.name),
      ("cname", .ofString value.cname),
      ("ordinal", .ofInt value.ordinal.toInt)]) enumeration.values)]

end Enumeration

namespace Exception

def toJson (exception : Exception) : Json :=
  .record [("name", .ofString exception.name), ("enum_name", .ofString exception.enumName)]

end Exception

namespace Document

def toJson (document : Document) : Json :=
  .record [
    ("ir_version", .ofString document.irVersion),
    ("library_version", .ofString document.libraryVersion),
    ("enums", .ofList Enumeration.toJson document.enums),
    ("exceptions", .ofList Exception.toJson document.exceptions),
    ("classes", .array (View.ClassView.toJsonList document.classes))]

end Document

end Bindery
