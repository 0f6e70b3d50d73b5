import MarkupAssist.Schema.Catalogue

/-!
# The bundled catalogue

The elements of the design system that are known without any schema source, in catalogue order.
-/

namespace MarkupAssist

namespace Bundled

/-- The element `f-button`. -/
def button : Element where
  title := "Button"
  description := "Buttons let users take actions and make choices with a single click."
  docLink := "https://flow.cldcvr.com/index.html?path=/docs/components-f-button--basic"
  category := "Actions"
  attributes :=
    [("label",
      { description := some "Text displayed inside the button."
        isRequired := true }),
     ("category",
      { description := some "Visual emphasis of the button."
        default := some "fill"
        values := some (.options
          [("fill", some "Solid background, highest emphasis"),
           ("outline", some "Bordered, transparent background"),
           ("transparent", some "No border and no background"),
           ("packed", some "Compact variant without padding")]) }),
     ("size",
      { description := some "Height and padding of the button."
        default := some "medium"
        values := some (.options
          [("large", some "48px"), ("medium", some "36px"), ("small", some "28px"),
           ("x-small", some "20px")]) }),
     ("state",
      { description := some "Color scheme of the button."
        default := some "primary"
        values := some (.options
          [("primary", some "Primary brand color"), ("neutral", some "Neutral color"),
           ("success", some "Success color"), ("warning", some "Warning color"),
           ("danger", some "Danger color"),
           ("inherit", some "Inherits the color of the parent")]) }),
     ("variant",
      { description := some "Corner style of the button."
        default := some "round"
        values := some (.options
          [("round", some "Fully rounded corners"), ("curved", some "Slightly rounded corners"),
           ("block", some "Square corners")]) }),
     ("icon-left",
      { description := some "Icon rendered before the label." }),
     ("icon-right",
      { description := some "Icon rendered after the label." }),
     ("counter",
      { description := some "Counter badge shown at the end of the button." }),
     ("loading",
      { description := some "Replaces the content with a loader."
        type := .boolean
        default := some "false" }),
     ("disabled",
      { description := some "Disables the button."
        type := .boolean
        default := some "false" }),
     ("click",
      { description := some "Emitted when the button is clicked."
        type := .method })]

/-- The element `f-icon-button`. -/
def iconButton : Element where
  title := "Icon Button"
  description := "A button that shows a single icon instead of a label."
  docLink := "https://flow.cldcvr.com/index.html?path=/docs/components-f-icon-button--basic"
  category := "Actions"
  attributes :=
    [("icon",
      { description := some "Name of the icon to render."
        isRequired := true }),
     ("category",
      { description := some "Visual emphasis of the button."
        default := some "fill"
        values := some (.options
          [("fill", some "Solid background"),
           ("outline", some "Bordered, transparent background"),
           ("transparent", some "No border and no background"),
           ("packed", some "Icon only, no padding")]) }),
     ("size",
      { description := some "Size of the button."
        default := some "medium"
        values := some (.options
          [("large", none), ("medium", none), ("small", none), ("x-small", none)]) }),
     ("state",
      { description := some "Color scheme of the button."
        default := some "primary"
        values := some (.options
          [("primary", none), ("neutral", none), ("success", none), ("warning", none),
           ("danger", none), ("inherit", none)]) }),
     ("variant",
      { description := some "Corner style of the button."
        default := some "round"
        values := some (.options
          [("round", none), ("curved", none), ("block", none)]) }),
     ("counter",
      { description := some "Counter badge shown on the button." }),
     ("effect",
      { description := some "Animation applied to the icon."
        values := some (.options
          [("pulse", some "Pulsing animation"), ("wiggle", some "Wiggle animation")]) }),
     ("click",
      { description := some "Emitted when the button is clicked."
        type := .method })]

/-- The element `f-icon`. -/
def icon : Element where
  title := "Icon"
  description := "Icons visually communicate meaning and actions."
  docLink := "https://flow.cldcvr.com/index.html?path=/docs/components-f-icon--basic"
  category := "Media"
  attributes :=
    [("source",
      { description := some "Icon name, emoji or image URL."
        isRequired := true }),
     ("size",
      { description := some "Size of the icon."
        default := some "small"
        values := some (.options
          [("x-large", none), ("large", none), ("medium", none), ("small", none),
           ("x-small", none)]) }),
     ("state",
      { description := some "Color of the icon."
        default := some "default"
        values := some (.options
          [("default", none), ("secondary", none), ("subtle", none), ("primary", none),
           ("success", none), ("danger", none), ("warning", none), ("neutral", none),
           ("inherit", none)]) }),
     ("clickable",
      { description := some "Shows a pointer cursor and hover state."
        type := .flag }),
     ("loading",
      { description := some "Replaces the icon with a loader."
        type := .boolean }),
     ("disabled",
      { description := some "Renders the icon in a disabled state."
        type := .boolean })]

/-- The element `f-div`. -/
def container : Element where
  title := "Div"
  description := "Layout container with spacing, alignment and border controls."
  docLink := "https://flow.cldcvr.com/index.html?path=/docs/components-f-div--basic"
  category := "Layout"
  attributes :=
    [("direction",
      { description := some "Direction in which children are placed."
        default := some "row"
        values := some (.options
          [("row", some "Children placed horizontally"),
           ("column", some "Children placed vertically")]) }),
     ("gap",
      { description := some "Space between children."
        default := some "none"
        values := some (.options
          [("auto", none), ("x-large", none), ("large", none), ("medium", none), ("small", none),
           ("x-small", none), ("none", none)]) }),
     ("padding",
      { description := some "Inner spacing of the container."
        default := some "none"
        values := some (.options
          [("x-large", none), ("large", none), ("medium", none), ("small", none),
           ("x-small", none), ("none", none)]) }),
     ("align",
      { description := some "Alignment of children inside the container."
        default := some "top-left"
        values := some (.options
          [("top-left", none), ("top-center", none), ("top-right", none), ("middle-left", none),
           ("middle-center", none), ("middle-right", none), ("bottom-left", none),
           ("bottom-center", none), ("bottom-right", none)]) }),
     ("width",
      { description := some "Width of the container."
        default := some "fill-container"
        values := some (.options
          [("fill-container", some "Takes the width of the parent"),
           ("hug-content", some "Shrinks to the content")]) }),
     ("height",
      { description := some "Height of the container."
        default := some "hug-content"
        values := some (.options
          [("fill-container", some "Takes the height of the parent"),
           ("hug-content", some "Shrinks to the content")]) }),
     ("state",
      { description := some "Background color of the container."
        default := some "transparent"
        values := some (.options
          [("transparent", none), ("default", none), ("secondary", none), ("subtle", none),
           ("success", none), ("warning", none), ("danger", none), ("primary", none),
           ("neutral", none)]) }),
     ("border",
      { description := some "Border of the container, written as `width style color position`."
        multiValues := true
        values := some (.slots
          [("width",
            { description := some "Border width"
              default := some "small"
              values := some (.options
                [("small", some "1px"), ("medium", some "2px"), ("large", some "4px")]) }),
           ("style",
            { description := some "Border style"
              default := some "solid"
              values := some (.options
                [("solid", none), ("dashed", none), ("dotted", none)]) }),
           ("color",
            { description := some "Border color"
              default := some "default"
              values := some (.options
                [("default", none), ("secondary", none), ("subtle", none)]) }),
           ("position",
            { description := some "Sides the border is drawn on"
              default := some "around"
              values := some (.options
                [("around", none), ("top", none), ("bottom", none), ("left", none),
                 ("right", none)]) })]) }),
     ("overflow",
      { description := some "Behaviour when children do not fit."
        default := some "wrap"
        values := some (.options
          [("wrap", none), ("scroll", none), ("hidden", none)]) }),
     ("variant",
      { description := some "Corner style of the container."
        default := some "block"
        values := some (.options
          [("block", none), ("curved", none), ("round", none)]) }),
     ("clickable",
      { description := some "Shows a pointer cursor and hover state."
        type := .flag }),
     ("disabled",
      { description := some "Renders the container in a disabled state."
        type := .boolean }),
     ("click",
      { description := some "Emitted when a clickable container is clicked."
        type := .method })]

/-- The element `f-text`. -/
def text : Element where
  title := "Text"
  description := "Typography component for headings, paragraphs and code."
  docLink := "https://flow.cldcvr.com/index.html?path=/docs/components-f-text--basic"
  category := "Typography"
  attributes :=
    [("variant",
      { description := some "Typographic style."
        default := some "para"
        values := some (.options
          [("heading", some "Heading text"), ("para", some "Paragraph text"),
           ("code", some "Monospaced text")]) }),
     ("size",
      { description := some "Size of the text."
        default := some "medium"
        values := some (.options
          [("x-large", none), ("large", none), ("medium", none), ("small", none),
           ("x-small", none)]) }),
     ("weight",
      { description := some "Font weight."
        default := some "regular"
        values := some (.options
          [("bold", none), ("medium", none), ("regular", none)]) }),
     ("state",
      { description := some "Color of the text."
        default := some "default"
        values := some (.options
          [("default", none), ("secondary", none), ("subtle", none), ("primary", none),
           ("success", none), ("danger", none), ("warning", none), ("inherit", none)]) }),
     ("align",
      { description := some "Horizontal alignment."
        default := some "left"
        values := some (.options
          [("left", none), ("center", none), ("right", none)]) }),
     ("ellipsis",
      { description := some "Truncates overflowing text with an ellipsis."
        type := .boolean }),
     ("inline",
      { description := some "Renders the text inline."
        type := .boolean }),
     ("highlight",
      { description := some "Substring to highlight." })]

/-- The element `f-spacer`. -/
def spacer : Element where
  title := "Spacer"
  description := "Empty element that adds fixed or flexible space between siblings."
  docLink := "https://flow.cldcvr.com/index.html?path=/docs/components-f-spacer--basic"
  category := "Layout"
  attributes :=
    [("size",
      { description := some "Amount of space."
        default := some "medium"
        values := some (.options
          [("x-large", none), ("large", none), ("medium", none), ("small", none),
           ("x-small", none), ("fill", some "Takes all remaining space")]) })]

end Bundled

/-- The elements known without any source. -/
def Catalogue.bundled : Catalogue :=
  ⟨[("f-button", Bundled.button), ("f-icon-button", Bundled.iconButton), ("f-icon", Bundled.icon),
    ("f-div", Bundled.container), ("f-text", Bundled.text), ("f-spacer", Bundled.spacer)]⟩

end MarkupAssist
