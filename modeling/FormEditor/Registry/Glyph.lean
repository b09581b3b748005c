/-! The glyph that stands for an icon. An icon without a glyph of its own is shown as a package. -/

namespace FormEditor

def fallbackGlyph : String := "📦"

/-- The glyph of an icon, by the name of the icon. -/
def glyph (icon : String) : String :=
  match icon with
  | "title" | "textarea" => "📄"
  | "subtitle" => "📑"
  | "paragraph" | "text" | "richtext" => "📝"
  | "email" => "✉\ufe0f"
  | "password" => "🔒"
  | "number" => "🔢"
  | "url" => "🔗"
  | "select" => "📋"
  | "checkbox" => "☑\ufe0f"
  | "radio" => "🔘"
  | "toggle" | "repeater" => "🔄"
  | "date" => "📅"
  | "datetime" => "📅⏰"
  | "daterange" => "📅📅"
  | "time" => "⏰"
  | "phone" => "📞"
  | "creditcard" => "💳"
  | "currency" => "💰"
  | "masked" => "🔐"
  | "file" => "📁"
  | "image" => "🖼\ufe0f"
  | "signature" => "✍\ufe0f"
  | "color" => "🎨"
  | "map" | "map_location_picker" => "📍"
  | "rating" => "⭐"
  | _ => fallbackGlyph

end FormEditor
