import ColorMarkup.Render

/-!
# ColorMarkup.Renderer

A renderer is a valid configuration put to use, and a session is a renderer
together with a configuration that is being edited.  An edited configuration
replaces the active one only if it is valid.
-/

namespace ColorMarkup

/-! ## Renderers -/

/-- A valid configuration. -/
structure Renderer where
  config : Config
  valid : config.Valid

namespace Renderer

instance : Inhabited Renderer := ⟨⟨{}, Config.valid_default⟩⟩

/-- Accepts a valid configuration. -/
def ofConfig (config : Config) : Except ConfigError Renderer :=
  match h : config.validate with
  | .ok () => .ok ⟨config, h⟩
  | .error error => .error error

/-- Markup in the codes of the host. -/
def transform (renderer : Renderer) (markup : String) : String :=
  String.ofList (renderer.config.transform markup.toList)

/-- Markup without its tags and codes. -/
def strip (renderer : Renderer) (markup : String) : String :=
  String.ofList (renderer.config.strip markup.toList)

end Renderer

/-- Markup in the codes of the host, under the default configuration. -/
def transform (markup : String) : String :=
  (default : Renderer).transform markup

/-- Markup without its tags and codes, under the default configuration. -/
def strip (markup : String) : String :=
  (default : Renderer).strip markup

/-! ## Sessions -/

/-- A configuration that is being edited, and the renderer in use. -/
structure Session where
  draft : Config := {}
  active : Renderer := default

namespace Session

/-- Changes the native marker of the draft. -/
def setMarker (session : Session) (marker : Char) : Session :=
  { session with draft := { session.draft with marker := ⟨marker⟩ } }

/-- Changes the alternate marker of the draft. -/
def setAlternate (session : Session) (alternate : Char) : Session :=
  { session with draft := { session.draft with alternate := alternate } }

/-- Changes the kinds of markup of the draft. -/
def setTags (session : Session) (tags : TagKinds) : Session :=
  { session with draft := { session.draft with tags := tags } }

/-- Starts the draft again from the default. -/
def reset (session : Session) : Session :=
  { session with draft := {} }

/-- Puts the draft to use if it is valid. -/
def build (session : Session) : Except ConfigError Session :=
  (Renderer.ofConfig session.draft).map fun renderer => { session with active := renderer }

end Session

end ColorMarkup
