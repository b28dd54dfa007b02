import WebApplication.Schema.Shape

/-!
# Shapes of the values in blueprints

Blueprints refer to shapes by name. A name either stands for a record with one field of
some shape, or for the shape itself.
-/

set_option autoImplicit false

namespace WebApplication.Blueprint.Shapes

open Schema (Shape)

def integer (bits : Nat) : Shape := .integer ⟨bits, true⟩

def natural (bits : Nat) : Shape := .integer ⟨bits, false⟩

def limits : Shape := .record "Limits" false [.required "max_body" (natural 64)]

def mode : Shape := .choice "Mode" [("fast", .bare), ("safe", .bare)]

def form : Shape := .choice "Shape" [("Dot", .bare), ("Circle", .wrapped), ("Rect", .fielded)]

def meters : Shape := .wrapper "Meters" (natural 32)

def item : Shape :=
  .record "Item" false [.required "name" .text, .required "qty" (natural 32),
    .withDefault "tags" (.list .text) (.list [])]

def note : Shape :=
  .record "Note" false [.required "title" .text, .required "stars" (natural 8),
    .withDefault "tags" (.list .text) (.list [])]

def server : Shape :=
  .record "Server" false [.required "hosts" (.list .text), .required "ports" (.list (natural 16)),
    .required "mode" mode, .required "limits" limits]

def order : Shape :=
  .record "Order" false [.required "items" (.list item), .required "by_name" (.table none item),
    .required "note" (.optional limits)]

def renamed : Shape :=
  .record "Renamed" false [.required "type" .text, ⟨"color", ["colour"], .text, none⟩]

def one (inner : Shape) : Shape := .record "One" false [.required "value" inner]

def records : List (String × Shape) :=
  [("City", .record "City" false [.required "name" .text, .required "country" .text,
      .required "population" (natural 64), .required "capital" .bool,
      .withDefault "nickname" (.optional .text) .absent]),
    ("Limits", limits),
    ("Strict", .record "Strict" true
      [.required "a" (integer 32), .withDefault "b" (.optional .bool) .absent]),
    ("Defaults", .record "Defaults" false [.withDefault "host" .text (.text "localhost"),
      .withDefault "port" (natural 16) (.integer 80),
      .withDefault "tags" (.list .text) (.list [.text "x"]),
      .withDefault "retry" (.optional (natural 8)) (.integer 3)])]

def fields : List (String × Shape) :=
  [("bool", .bool), ("i8", integer 8), ("i16", integer 16), ("i32", integer 32),
    ("i64", integer 64), ("u8", natural 8), ("u16", natural 16), ("u32", natural 32),
    ("u64", natural 64), ("u128", .wide), ("f32", .single), ("f64", .double),
    ("char", .character), ("string", .text), ("unit", .unit), ("marker", .marker "Marker"),
    ("opt_u32", .optional (natural 32)), ("opt_string", .optional .text),
    ("opt_list", .optional (.list (natural 8))), ("list_string", .list .text),
    ("list_u16", .list (natural 16)), ("list_bool", .list .bool),
    ("list_opt", .list (.optional (integer 8))), ("list_list", .list (.list (natural 8))),
    ("list_mode", .list mode), ("list_item", .list item), ("list_meters", .list meters),
    ("map_string", .table none .text), ("map_u32", .table none (natural 32)),
    ("map_by_u32", .table (some ⟨32, false⟩) .text), ("tuple", .tuple [natural 8, .text]),
    ("mode", mode), ("shape", form), ("meters", meters), ("limits", limits)]

def wholes : List (String × Shape) :=
  [("tree", .tree), ("root_map", .table none .text), ("root_list", .list .text),
    ("root_u8", natural 8), ("root_opt", .optional (.table none (natural 8))),
    ("root_unit", .unit), ("root_mode", mode), ("Server", server), ("Order", order),
    ("Item", item), ("Mode", mode), ("Meters", meters), ("Renamed", renamed)]

def named (name : String) : Shape :=
  match fields.lookup name with
  | some inner => one inner
  | none => ((wholes++records).lookup name).getD .tree

end WebApplication.Blueprint.Shapes
