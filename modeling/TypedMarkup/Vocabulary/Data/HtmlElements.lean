import TypedMarkup.Vocabulary.Element

namespace TypedMarkup

def htmlDefinitions : List Definition :=
  [.entry .container "A" "defines a hyperlink."
     (.global (.found .html ["download", "href", "hreflang", "media", "ping", "rel", "target",
      "type"]))
     (.baseline .global .none),
   .entry .container "Abbr" "defines an abbreviation or an acronym."
     (.global .none) (.baseline .global .none),
   .entry .container "Address" "defines contact information for the author/owner of a document."
     (.global .none) (.baseline .global .none),
   .entry .childless "Area" "defines an area inside an image-map."
     (.global (.found .html ["alt", "coords", "download", "href", "hreflang", "media", "rel",
      "shape", "target", "type"]))
     (.baseline .global .none),
   .entry .container "Article" "defines an article."
     (.global .none) (.baseline .global .none),
   .entry .container "Aside" "defines content aside from the page content."
     (.global .none) (.baseline .global .none),
   .entry .container "Audio" "defines sound content."
     (.global (.found .html ["autoplay", "controls", "crossorigin", "loop", "muted", "preload",
      "src"]))
     (.baseline .media (.baseline .global .none)),
   .entry .container "B" "defines bold text."
     (.global .none) (.baseline .global .none),
   .entry .childless "Base" "specifies the base URL/target for all relative URLs in a document."
     (.global (.found .html ["href", "target"])) (.baseline .global .none),
   .entry .container "Bdi"
     "isolates a part of text that might be formatted in a different direction from other text outside it."
     (.global .none) (.baseline .global .none),
   .entry .container "Bdo" "overrides the current text direction."
     (.global .none) (.baseline .global .none),
   .entry .container "Blockquote" "defines a section that is quoted from another source."
     (.global (.found .html ["cite"])) (.baseline .global .none),
   .entry .restricted "Body" "defines the document's body."
     (.global .none)
     (.baseline .global (.found .html ["onafterprint", "onbeforeprint", "onbeforeunload",
      "onerror", "onhashchange", "onload", "onmessage", "onoffline", "ononline", "onpagehide",
      "onpageshow", "onpopstate", "onresize", "onstorage", "onunload"])),
   .entry .childless "Br" "defines a single line break."
     (.global .none) (.baseline .global .none),
   .entry .container "Button" "defines a clickable button."
     (.global (.found .html ["autofocus", "disabled", "form", "formaction", "formenctype",
      "formmethod", "formnovalidate", "formtarget", "name", "type", "value"]))
     (.baseline .global .none),
   .entry .container "Canvas" "is used to draw graphics on the fly."
     (.global (.found .html ["height", "width"])) (.baseline .global .none),
   .entry .container "Caption" "defines a table caption."
     (.global .none) (.baseline .global .none),
   .entry .container "Cite" "defines the title of a work."
     (.global .none) (.baseline .global .none),
   .entry .container "Code" "defines a piece of computer code."
     (.global .none) (.baseline .global .none),
   .entry .childless "Col"
     "specifies column properties for each column within a colgroup element."
     (.global (.found .html ["span"])) (.baseline .global .none),
   .entry .container "ColGroup"
     "specifies a group of one or more columns in a table for formatting."
     (.global (.found .html ["span"])) (.baseline .global .none),
   .entry .container "Data" "links the given content with a machine-readable translation."
     (.global (.found .html ["value"])) .none,
   .entry .container "DataList" "specifies a list of pre-defined options for input controls."
     (.global .none) (.baseline .global .none),
   .entry .container "Dd" "defines a description/value of a term in a description list."
     (.global .none) (.baseline .global .none),
   .entry .container "Del" "defines text that has been deleted from a document."
     (.global (.found .html ["cite", "datetime"])) (.baseline .global .none),
   .entry .container "Details" "defines additional details that the user can view or hide."
     (.global (.found .html ["open"])) (.baseline .global (.found .html ["ontoggle"])),
   .entry .container "Dfn" "represents the defining instance of a term."
     (.global .none) (.baseline .global .none),
   .entry .container "Dialog" "defines a dialog box or window."
     (.global (.found .html ["open"])) (.baseline .global .none),
   .entry .container "Div" "defines a section in a document."
     (.global .none) (.baseline .global .none),
   .entry .container "Dl" "defines a description list."
     (.global .none) (.baseline .global .none),
   .entry .container "Dt" "defines a term/name in a description list."
     (.global .none) (.baseline .global .none),
   .withCallerTag <| .entry .container "Elem" "represents an customizable HTML element."
     (.global (.found .html ["xmlns"])) (.baseline .global .none),
   .withCallerTag <| .entry .childless "ElemSelfClosing"
     "represents a self closing custom HTML element."
     (.global (.found .html ["xmlns"])) (.baseline .global .none),
   .entry .container "Em" "defines emphasized text."
     (.global .none) (.baseline .global .none),
   .entry .childless "Embed" "defines a container for an external (non-HTML) application."
     (.global (.found .html ["height", "src", "type", "width"]))
     (.baseline .media (.baseline .global .none)),
   .entry .container "FieldSet" "groups related elements in a form."
     (.global (.found .html ["disabled", "form", "name"])) (.baseline .global .none),
   .entry .container "FigCaption" "defines a caption for a figure element."
     (.global .none) (.baseline .global .none),
   .entry .container "Figure" "specifies self-contained content."
     (.global .none) (.baseline .global .none),
   .entry .container "Footer" "defines a footer for a document or section."
     (.global .none) (.baseline .global .none),
   .entry .container "Form" "defines an HTML form for user input."
     (.global (.found .html ["accept-charset", "action", "autocomplete", "enctype", "method",
      "name", "novalidate", "target"]))
     (.baseline .global .none),
   .entry .container "H1" "defines HTML heading."
     (.global .none) (.baseline .global .none),
   .entry .container "H2" "defines HTML heading."
     (.global .none) (.baseline .global .none),
   .entry .container "H3" "defines HTML heading."
     (.global .none) (.baseline .global .none),
   .entry .container "H4" "defines HTML heading."
     (.global .none) (.baseline .global .none),
   .entry .container "H5" "defines HTML heading."
     (.global .none) (.baseline .global .none),
   .entry .container "H6" "defines HTML heading."
     (.global .none) (.baseline .global .none),
   .entry .container "Head" "defines information about the document."
     (.global .none) .none,
   .entry .container "Header" "defines a header for a document or section."
     (.global .none) (.baseline .global .none),
   .entry .childless "Hr" "defines a thematic change in the content."
     (.global .none) (.baseline .global .none),
   .entry .restricted "Html" "defines the root of an HTML document."
     (.global .none) .none,
   .entry .container "I" "defines a part of text in an alternate voice or mood."
     (.global .none) (.baseline .global .none),
   .entry .container "IFrame" "defines an inline frame."
     (.global (.found .html ["allow", "allowfullscreen", "allowpaymentrequest", "height",
      "name", "referrerpolicy", "sandbox", "src", "srcdoc", "width", "loading"]))
     (.baseline .global (.found .html ["onload"])),
   .entry .childless "Img" "defines an image."
     (.global (.found .html ["alt", "crossorigin", "height", "ismap", "sizes", "src", "srcset",
      "usemap", "width"]))
     (.baseline .media (.baseline .global (.found .html ["onload"]))),
   .entry .childless "Input" "defines an input control."
     (.global (.found .html ["accept", "alt", "autocomplete", "autofocus", "capture",
      "checked", "dirname", "disabled", "form", "formaction", "formenctype", "formmethod",
      "formnovalidate", "formtarget", "height", "list", "max", "maxlength", "min", "multiple",
      "name", "pattern", "placeholder", "readonly", "required", "size", "src", "step", "type",
      "value", "width"]))
     (.baseline .global (.found .html ["onload"])),
   .entry .container "Ins" "defines a text that has been inserted into a document."
     (.global .none) (.baseline .global .none),
   .entry .container "Kbd" "defines keyboard input."
     (.global .none) (.baseline .global .none),
   .entry .container "Label" "defines a label for an input element."
     (.global (.found .html ["for", "form"])) (.baseline .global .none),
   .entry .container "Legend" "defines a caption for a fieldset element."
     (.global .none) (.baseline .global .none),
   .entry .container "Li" "defines a list item."
     (.global (.found .html ["value"])) (.baseline .global .none),
   .entry .childless "Link"
     "defines the relationship between a document and an external resource (most used to link to style sheets)."
     (.global (.found .html ["crossorigin", "href", "hreflang", "media", "rel", "sizes",
      "type"]))
     (.baseline .global (.found .html ["onload"])),
   .entry .container "Main" "specifies the main content of a document."
     (.global .none) (.baseline .global .none),
   .entry .container "Map" "defines a client-side image-map."
     (.global (.found .html ["name"])) (.baseline .global .none),
   .entry .container "Mark" "defines marked/highlighted text."
     (.global .none) (.baseline .global .none),
   .entry .childless "Meta" "."
     (.global (.found .html ["charset", "content", "http-equiv", "name", "property"])) .none,
   .entry .container "Meter" "defines a scalar measurement within a known range (a gauge)."
     (.global (.found .html ["form", "high", "low", "max", "min", "optimum", "value"]))
     (.baseline .global .none),
   .entry .container "Nav" "defines navigation links."
     (.global .none) (.baseline .global .none),
   .entry .container "NoScript"
     "defines an alternate content for users that do not support client-side scripts."
     (.global .none) .none,
   .entry .container "Object" "defines an embedded object."
     (.global (.found .html ["data", "form", "height", "name", "type", "usemap", "width"]))
     (.baseline .media (.baseline .global .none)),
   .entry .container "Ol" "defines an ordered list."
     (.global (.found .html ["reversed", "start", "type"])) (.baseline .global .none),
   .entry .container "OptGroup" "defines a group of related options in a drop-down list."
     (.global (.found .html ["disabled", "label"])) (.baseline .global .none),
   .entry .container "Option" "defines an option in a drop-down list."
     (.global (.found .html ["disabled", "label", "selected", "value"]))
     (.baseline .global .none),
   .entry .container "Output" "."
     (.global (.found .html ["for", "form", "name"])) (.baseline .global .none),
   .entry .container "P" "defines a paragraph."
     (.global .none) (.baseline .global .none),
   .entry .childless "Param" "defines a parameter for an object."
     (.global (.found .html ["name", "value"])) (.baseline .global .none),
   .entry .container "Picture" "defines a container for multiple image resources."
     (.global .none) (.baseline .global .none),
   .entry .container "Pre" "defines preformatted text."
     (.global .none) (.baseline .global .none),
   .entry .container "Progress" "represents the progress of a task."
     (.global (.found .html ["max", "value"])) (.baseline .global .none),
   .entry .container "Q" "defines a short quotation."
     (.global (.found .html ["cite"])) (.baseline .global .none),
   .entry .container "Rp" "defines what to show in browsers that do not support ruby annotations."
     (.global .none) (.baseline .global .none),
   .entry .container "Rt"
     "defines an explanation/pronunciation of characters (for East Asian typography)."
     (.global .none) (.baseline .global .none),
   .entry .container "Ruby" "defines a ruby annotation (for East Asian typography)."
     (.global .none) (.baseline .global .none),
   .entry .container "S" "Defines text that is no longer correct."
     (.global .none) (.baseline .global .none),
   .entry .container "Samp" "defines sample output from a computer program."
     (.global .none) (.baseline .global .none),
   .entry .container "Script" "defines a client-side script."
     (.global (.found .html ["async", "charset", "crossorigin", "defer", "src", "type"]))
     (.found .html ["onload"]),
   .entry .container "Section" "defines a section in a document."
     (.global .none) (.baseline .global .none),
   .entry .container "Select" "defines a drop-down list."
     (.global (.found .html ["autofocus", "disabled", "form", "multiple", "name", "required",
      "size"]))
     (.baseline .global .none),
   .entry .container "Small" "defines smaller text."
     (.global .none) (.baseline .global .none),
   .entry .childless "Source" "."
     (.global (.found .html ["src", "srcset", "media", "sizes", "type"]))
     (.baseline .global .none),
   .entry .container "Span" "defines a section in a document."
     (.global .none) (.baseline .global .none),
   .entry .container "Strong" "defines important text."
     (.global .none) (.baseline .global .none),
   .entry .container "Style" "defines style information for a document."
     (.global (.found .html ["media", "type"])) (.baseline .global (.found .html ["onload"])),
   .entry .container "Sub" "defines subscripted text."
     (.global .none) (.baseline .global .none),
   .entry .container "Summary" "defines a visible heading for a details element."
     (.global .none) (.baseline .global .none),
   .entry .container "Sup" "defines superscripted text."
     (.global .none) (.baseline .global .none),
   .entry .container "Table" "defines a table."
     (.global .none) (.baseline .global .none),
   .entry .container "TBody" "groups the body content in a table."
     (.global .none) (.baseline .global .none),
   .entry .container "Td" "defines a cell in a table."
     (.global (.found .html ["colspan", "headers", "rowspan"])) (.baseline .global .none),
   .entry .container "Template" "defines a template."
     (.global .none) .none,
   .withTextInValue <| .entry .container "Textarea"
     "defines a multiline input control (text area)."
     (.global (.found .html ["autofocus", "cols", "dirname", "disabled", "form", "maxlength",
      "name", "placeholder", "readonly", "required", "rows", "wrap"]))
     (.baseline .global .none),
   .entry .container "TFoot" "groups the footer content in a table."
     (.global .none) (.baseline .global .none),
   .entry .container "Th" "defines a header cell in a table."
     (.global (.found .html ["abbr", "colspan", "headers", "rowspan", "scope"]))
     (.baseline .global .none),
   .entry .container "THead" "groups the header content in a table"
     (.global .none) (.baseline .global .none),
   .entry .container "Time" "defines a date/time."
     (.global (.found .html ["datetime"])) (.baseline .global .none),
   .entry .container "Title" "defines a title for the document."
     (.global .none) .none,
   .entry .container "Tr" "defines a row in a table."
     (.global .none) (.baseline .global .none),
   .entry .container "U" "defines text that should be stylistically different from normal text."
     (.global .none) (.baseline .global .none),
   .entry .container "Ul" "defines an unordered list."
     (.global .none) (.baseline .global .none),
   .entry .container "Var" "defines a variable."
     (.global .none) (.baseline .global .none),
   .entry .container "Video" "defines a video or movie."
     (.global (.found .html ["autoplay", "controls", "crossorigin", "height", "loop", "muted",
      "poster", "preload", "src", "width"]))
     (.baseline .media (.baseline .global .none)),
   .entry .container "Wbr" "defines a possible line-break."
     (.global .none) (.baseline .global .none)]

end TypedMarkup
