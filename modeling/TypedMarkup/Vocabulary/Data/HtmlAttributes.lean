import TypedMarkup.Vocabulary.Attribute

namespace TypedMarkup

def htmlAttributeEntries : List Attribute :=
  [⟨"abbr", "Abbr", none, .string,
    "specifies an abbreviated version of the content in a header cell."⟩,
   ⟨"accept", "Accept", none, .string,
    "specifies the types of files that the server accepts (only for file type)."⟩,
   ⟨"allow", "Allow", none, .string,
    "specifies a feature policy. Can be called multiple times to set multiple policies."⟩,
   ⟨"allowfullscreen", "AllowFullscreen", none, .boolForce,
    "reports whether an iframe can activate fullscreen mode."⟩,
   ⟨"allowpaymentrequest", "AllowPaymentRequest", none, .boolForce,
    "reports whether an iframe should be allowed to invoke the Payment Request API"⟩,
   ⟨"aria-*", "Aria", none, .ariaValue,
    "stores accessible rich internet applications (ARIA) data."⟩,
   ⟨"attribute", "Attr", none, .attrValue, "sets the named attribute with the given value."⟩,
   ⟨"accept-charset", "AcceptCharset", some "accept-charset", .string,
    "specifies the character encodings that are to be used for the form submission."⟩,
   ⟨"accesskey", "AccessKey", none, .string,
    "specifies a shortcut key to activate/focus an element."⟩,
   ⟨"action", "Action", none, .string,
    "specifies where to send the form-data when a form is submitted."⟩,
   ⟨"alt", "Alt", none, .string,
    "specifies an alternate text when the original element fails to display."⟩,
   ⟨"async", "Async", none, .bool,
    "specifies that the script is executed asynchronously (only for external scripts)."⟩,
   ⟨"autocomplete", "AutoComplete", none, .onOff,
    "specifies whether the element should have autocomplete enabled."⟩,
   ⟨"autofocus", "AutoFocus", none, .bool,
    "specifies that the element should automatically get focus when the page loads."⟩,
   ⟨"autoplay", "AutoPlay", none, .bool,
    "specifies that the audio/video will start playing as soon as it is ready."⟩,
   ⟨"capture", "Capture", none, .string,
    "specifies the capture input method in file upload controls"⟩,
   ⟨"charset", "Charset", none, .string, "specifies the character encoding."⟩,
   ⟨"checked", "Checked", none, .bool,
    "specifies that an input element should be pre-selected when the page loads (for checkbox or radio types)."⟩,
   ⟨"cite", "Cite", none, .url, "specifies a URL which explains the quote/deleted/inserted text."⟩,
   ⟨"class", "Class", none, .stringClass,
    "specifies one or more classnames for an element (refers to a class in a style sheet)."⟩,
   ⟨"cols", "Cols", none, .int, "specifies the visible width of a text area."⟩,
   ⟨"colspan", "ColSpan", none, .int, "specifies the number of columns a table cell should span."⟩,
   ⟨"content", "Content", none, .string,
    "gives the value associated with the http-equiv or name attribute."⟩,
   ⟨"contenteditable", "ContentEditable", none, .bool,
    "specifies whether the content of an element is editable or not."⟩,
   ⟨"controls", "Controls", none, .bool,
    "specifies that audio/video controls should be displayed (such as a play/pause button etc)."⟩,
   ⟨"coords", "Coords", none, .string, "specifies the coordinates of the area."⟩,
   ⟨"crossorigin", "CrossOrigin", none, .string,
    "sets the mode of the request to an HTTP CORS Request."⟩,
   ⟨"data", "Data", none, .url, "specifies the URL of the resource to be used by the object."⟩,
   ⟨"data-*", "DataSet", none, .dataValue,
    "stores custom data private to the page or application."⟩,
   ⟨"datetime", "DateTime", none, .string, "specifies the date and time."⟩,
   ⟨"default", "Default", none, .bool,
    "specifies that the track is to be enabled if the user's preferences do not indicate that another track would be more appropriate."⟩,
   ⟨"defer", "Defer", none, .bool,
    "specifies that the script is executed when the page has finished parsing (only for external scripts)."⟩,
   ⟨"dir", "Dir", none, .string, "specifies the text direction for the content in an element."⟩,
   ⟨"dirname", "DirName", none, .string, "specifies that the text direction will be submitted."⟩,
   ⟨"disabled", "Disabled", none, .bool,
    "specifies that the specified element/group of elements should be disabled."⟩,
   ⟨"download", "Download", none, .string,
    "specifies that the target will be downloaded when a user clicks on the hyperlink."⟩,
   ⟨"draggable", "Draggable", none, .bool, "specifies whether an element is draggable or not."⟩,
   ⟨"enctype", "EncType", none, .string,
    "specifies how the form-data should be encoded when submitting it to the server (only for post method)."⟩,
   ⟨"for", "For", none, .string,
    "specifies which form element(s) a label/calculation is bound to."⟩,
   ⟨"form", "Form", none, .string, "specifies the name of the form the element belongs to."⟩,
   ⟨"formaction", "FormAction", none, .string,
    "specifies where to send the form-data when a form is submitted. Only for submit type."⟩,
   ⟨"formenctype", "FormEncType", none, .string,
    "specifies how form-data should be encoded before sending it to a server. Only for submit type."⟩,
   ⟨"formmethod", "FormMethod", none, .string,
    "specifies how to send the form-data (which HTTP method to use). Only for submit type."⟩,
   ⟨"formnovalidate", "FormNoValidate", none, .bool,
    "specifies that the form-data should not be validated on submission. Only for submit type."⟩,
   ⟨"formtarget", "FormTarget", none, .string,
    "specifies where to display the response after submitting the form. Only for submit type."⟩,
   ⟨"headers", "Headers", none, .string,
    "specifies one or more headers cells a cell is related to."⟩,
   ⟨"height", "Height", none, .int, "specifies the height of the element (in pixels)."⟩,
   ⟨"hidden", "Hidden", none, .bool,
    "specifies that an element is not yet, or is no longer relevant."⟩,
   ⟨"high", "High", none, .float, "specifies the range that is considered to be a high value."⟩,
   ⟨"href", "Href", none, .url, "specifies the URL of the page the link goes to."⟩,
   ⟨"hreflang", "HrefLang", none, .string, "specifies the language of the linked document."⟩,
   ⟨"http-equiv", "HTTPEquiv", some "http-equiv", .string,
    "provides an HTTP header for the information/value of the content attribute."⟩,
   ⟨"id", "ID", none, .string, "specifies a unique id for an element."⟩,
   ⟨"ismap", "IsMap", none, .bool, "specifies an image as a server-side image-map."⟩,
   ⟨"kind", "Kind", none, .string, "specifies the kind of text track."⟩,
   ⟨"label", "Label", none, .string, "specifies a shorter label for the option."⟩,
   ⟨"lang", "Lang", none, .string, "specifies the language of the element's content."⟩,
   ⟨"list", "List", none, .string,
    "refers to a datalist element that contains pre-defined options for an input element."⟩,
   ⟨"loading", "Loading", none, .string,
    "indicates how the browser should load the iframe (eager|lazy)."⟩,
   ⟨"loop", "Loop", none, .bool,
    "specifies that the audio/video will start over again, every time it is finished."⟩,
   ⟨"low", "Low", none, .float, "specifies the range that is considered to be a low value."⟩,
   ⟨"max", "Max", none, .any, "Specifies the maximum value."⟩,
   ⟨"maxlength", "MaxLength", none, .int,
    "specifies the maximum number of characters allowed in an element."⟩,
   ⟨"media", "Media", none, .string,
    "specifies what media/device the linked document is optimized for."⟩,
   ⟨"method", "Method", none, .string, "specifies the HTTP method to use when sending form-data."⟩,
   ⟨"min", "Min", none, .any, "specifies a minimum value."⟩,
   ⟨"multiple", "Multiple", none, .bool, "specifies that a user can enter more than one value."⟩,
   ⟨"muted", "Muted", none, .bool, "specifies that the audio output of the video should be muted."⟩,
   ⟨"name", "Name", none, .string, "specifies the name of the element."⟩,
   ⟨"novalidate", "NoValidate", none, .bool,
    "specifies that the form should not be validated when submitted."⟩,
   ⟨"open", "Open", none, .bool,
    "specifies that the details should be visible (open) to the user."⟩,
   ⟨"optimum", "Optimum", none, .float, "specifies what value is the optimal value for the gauge."⟩,
   ⟨"pattern", "Pattern", none, .string,
    "specifies a regular expression that an input element's value is checked against."⟩,
   ⟨"ping", "Ping", none, .string,
    "specifies a list of URLs to be notified if the user follows the hyperlink."⟩,
   ⟨"placeholder", "Placeholder", none, .string,
    "specifies a short hint that describes the expected value of the element."⟩,
   ⟨"poster", "Poster", none, .string,
    "specifies an image to be shown while the video is downloading, or until the user hits the play button."⟩,
   ⟨"preload", "Preload", none, .string,
    "specifies if and how the author thinks the audio/video should be loaded when the page loads."⟩,
   ⟨"property", "Property", none, .string, "specifies the property name."⟩,
   ⟨"readonly", "ReadOnly", none, .bool, "specifies that the element is read-only."⟩,
   ⟨"referrerpolicy", "ReferrerPolicy", none, .string,
    "specifies how much/which referrer information that will be sent when processing the iframe attributes"⟩,
   ⟨"rel", "Rel", none, .string,
    "specifies the relationship between the current document and the linked document."⟩,
   ⟨"required", "Required", none, .bool,
    "specifies that the element must be filled out before submitting the form."⟩,
   ⟨"reversed", "Reversed", none, .bool,
    "specifies that the list order should be descending (9,8,7...)."⟩,
   ⟨"role", "Role", none, .string,
    "specifies to parsing software the exact function of an element (and its children)."⟩,
   ⟨"rows", "Rows", none, .int, "specifies the visible number of lines in a text area."⟩,
   ⟨"rowspan", "Rowspan", none, .int, "specifies the number of rows a table cell should span."⟩,
   ⟨"sandbox", "Sandbox", none, .any,
    "enables an extra set of restrictions for the content in an iframe."⟩,
   ⟨"scope", "Scope", none, .string,
    "specifies whether a header cell is a header for a column, row, or group of columns or rows."⟩,
   ⟨"selected", "Selected", none, .bool,
    "specifies that an option should be pre-selected when the page loads."⟩,
   ⟨"shape", "Shape", none, .string, "specifies the shape of the area."⟩,
   ⟨"size", "Size", none, .int, "specifies the width."⟩,
   ⟨"sizes", "Sizes", none, .string, "specifies the size of the linked resource."⟩,
   ⟨"span", "Span", none, .int, "specifies the number of columns to span."⟩,
   ⟨"spellcheck", "Spellcheck", none, .boolForce,
    "specifies whether the element is to have its spelling and grammar checked or not."⟩,
   ⟨"src", "Src", none, .url, "specifies the URL of the media file."⟩,
   ⟨"srcdoc", "SrcDoc", none, .string,
    "specifies the HTML content of the page to show in the iframe."⟩,
   ⟨"srclang", "SrcLang", none, .string,
    "specifies the language of the track text data (required if kind = \"subtitles\")."⟩,
   ⟨"srcset", "SrcSet", none, .url,
    "specifies the URL of the image to use in different situations."⟩,
   ⟨"start", "Start", none, .int, "specifies the start value of the ordered list."⟩,
   ⟨"step", "Step", none, .float, "specifies the legal number intervals for an input field."⟩,
   ⟨"style", "Style", none, .style,
    "specifies a CSS style for an element. Can be called multiple times to set multiple css styles."⟩,
   ⟨"styles", "Styles", none, .styleMap,
    "specifies CSS styles for an element. Can be called multiple times to set multiple css styles."⟩,
   ⟨"tabindex", "TabIndex", none, .int, "specifies the tabbing order of an element."⟩,
   ⟨"target", "Target", none, .string,
    "specifies the target for where to open the linked document or where to submit the form."⟩,
   ⟨"title", "Title", none, .string, "specifies extra information about an element."⟩,
   ⟨"type", "Type", none, .string, "specifies the type of element."⟩,
   ⟨"usemap", "UseMap", none, .string, "specifies an image as a client-side image-map."⟩,
   ⟨"value", "Value", none, .any, "specifies the value of the element."⟩,
   ⟨"width", "Width", none, .int, "specifies the width of the element."⟩,
   ⟨"wrap", "Wrap", none, .string,
    "specifies how the text in a text area is to be wrapped when submitted in a form."⟩,
   ⟨"xmlns", "XMLNS", none, .xmlns, "specifies the xml namespace of the element."⟩]

end TypedMarkup
