import TypedMarkup.Vocabulary.Event

namespace TypedMarkup

def htmlEventEntries : List Event :=
  [⟨"onafterprint", "OnAfterPrint", "runs the given handler after the document is printed."⟩,
   ⟨"onbeforeprint", "OnBeforePrint", "calls the given handler before the document is printed."⟩,
   ⟨"onbeforeunload", "OnBeforeUnload",
    "calls the given handler when the document is about to be unloaded."⟩,
   ⟨"onerror", "OnError", "calls the given handler when an error occurs."⟩,
   ⟨"onhashchange", "OnHashChange",
    "calls the given handler when there has been changes to the anchor part of the a URL."⟩,
   ⟨"onload", "OnLoad", "calls the given handler after the element is finished loading."⟩,
   ⟨"onmessage", "OnMessage", "calls then given handler when a message is triggered."⟩,
   ⟨"onoffline", "OnOffline", "calls the given handler when the browser starts to work offline."⟩,
   ⟨"ononline", "OnOnline", "calls the given handler when the browser starts to work online."⟩,
   ⟨"onpagehide", "OnPageHide", "calls the given handler when a user navigates away from a page."⟩,
   ⟨"onpageshow", "OnPageShow", "calls the given handler when a user navigates to a page."⟩,
   ⟨"onpopstate", "OnPopState", "calls the given handler when the window's history changes."⟩,
   ⟨"onresize", "OnResize", "calls the given handler when the browser window is resized."⟩,
   ⟨"onstorage", "OnStorage", "calls the given handler when a Web Storage area is updated."⟩,
   ⟨"onunload", "OnUnload",
    "calls the given handler once a page has unloaded (or the browser window has been closed)."⟩,
   ⟨"onblur", "OnBlur", "calls the given handler when the element loses focus."⟩,
   ⟨"onchange", "OnChange", "calls the given handler when the value of the element is changed."⟩,
   ⟨"oncontextmenu", "OnContextMenu", "calls the given handler when a context menu is triggered."⟩,
   ⟨"onfocus", "OnFocus", "calls the given handler when the element gets focus."⟩,
   ⟨"oninput", "OnInput", "calls the given handler when an element gets user input."⟩,
   ⟨"oninvalid", "OnInvalid", "calls the given handler when an element is invalid."⟩,
   ⟨"onreset", "OnReset", "calls the given handler when the Reset button in a form is clicked."⟩,
   ⟨"onsearch", "OnSearch",
    "calls the given handler when the user writes something in a search field."⟩,
   ⟨"onselect", "OnSelect",
    "calls the given handler after some text has been selected in an element."⟩,
   ⟨"onsubmit", "OnSubmit", "calls the given handler when a form is submitted."⟩,
   ⟨"onkeydown", "OnKeyDown", "calls the given handler when a user is pressing a key."⟩,
   ⟨"onkeypress", "OnKeyPress", "calls the given handler when a user presses a key."⟩,
   ⟨"onkeyup", "OnKeyUp", "calls the given handler when a user releases a key."⟩,
   ⟨"onclick", "OnClick", "calls the given handler when there is a mouse click on the element."⟩,
   ⟨"ondblclick", "OnDblClick",
    "calls the given handler when there is a mouse double-click on the element."⟩,
   ⟨"onmousedown", "OnMouseDown",
    "calls the given handler when a mouse button is pressed down on an element."⟩,
   ⟨"onmouseenter", "OnMouseEnter",
    "calls the given handler when a mouse button is initially moved so that its hotspot is within the element at which the event was fired."⟩,
   ⟨"onmouseleave", "OnMouseLeave",
    "calls the given handler when the mouse pointer is fired when the pointer has exited the element and all of its descendants."⟩,
   ⟨"onmousemove", "OnMouseMove",
    "calls the given handler when the mouse pointer is moving while it is over an element."⟩,
   ⟨"onmouseout", "OnMouseOut",
    "calls the given handler when the mouse pointer moves out of an element."⟩,
   ⟨"onmouseover", "OnMouseOver",
    "calls the given handler when the mouse pointer moves over an element."⟩,
   ⟨"onmouseup", "OnMouseUp",
    "calls the given handler when a mouse button is released over an element."⟩,
   ⟨"onwheel", "OnWheel",
    "calls the given handler when the mouse wheel rolls up or down over an element."⟩,
   ⟨"ondrag", "OnDrag", "calls the given handler when an element is dragged."⟩,
   ⟨"ondragend", "OnDragEnd", "calls the given handler at the end of a drag operation."⟩,
   ⟨"ondragenter", "OnDragEnter",
    "calls the given handler when an element has been dragged to a valid drop target."⟩,
   ⟨"ondragleave", "OnDragLeave",
    "calls the given handler when an element leaves a valid drop target."⟩,
   ⟨"ondragover", "OnDragOver",
    "calls the given handler when an element is being dragged over a valid drop target."⟩,
   ⟨"ondragstart", "OnDragStart", "calls the given handler at the start of a drag operation."⟩,
   ⟨"ondrop", "OnDrop", "calls the given handler when dragged element is being dropped."⟩,
   ⟨"onscroll", "OnScroll",
    "calls the given handler when an element's scrollbar is being scrolled."⟩,
   ⟨"oncopy", "OnCopy", "calls the given handler when the user copies the content of an element."⟩,
   ⟨"oncut", "OnCut", "calls the given handler when the user cuts the content of an element."⟩,
   ⟨"onpaste", "OnPaste",
    "calls the given handler when the user pastes some content in an element."⟩,
   ⟨"onabort", "OnAbort", "calls the given handler on abort."⟩,
   ⟨"oncanplay", "OnCanPlay",
    "calls the given handler when a file is ready to start playing (when it has buffered enough to begin)."⟩,
   ⟨"oncanplaythrough", "OnCanPlayThrough",
    "calls the given handler when a file can be played all the way to the end without pausing for buffering."⟩,
   ⟨"oncuechange", "OnCueChange",
    "calls the given handler when the cue changes in a track element."⟩,
   ⟨"ondurationchange", "OnDurationChange",
    "calls the given handler when the length of the media changes."⟩,
   ⟨"onemptied", "OnEmptied",
    "calls the given handler when something bad happens and the file is suddenly unavailable (like unexpectedly disconnects)."⟩,
   ⟨"onended", "OnEnded", "calls the given handler when the media has reach the end."⟩,
   ⟨"onloadeddata", "OnLoadedData", "calls the given handler when media data is loaded."⟩,
   ⟨"onloadedmetadata", "OnLoadedMetaData",
    "calls the given handler when meta data (like dimensions and duration) are loaded."⟩,
   ⟨"onloadstart", "OnLoadStart",
    "calls the given handler just as the file begins to load before anything is actually loaded."⟩,
   ⟨"onpause", "OnPause",
    "calls the given handler when the media is paused either by the user or programmatically."⟩,
   ⟨"onplay", "OnPlay", "calls the given handler when the media is ready to start playing."⟩,
   ⟨"onplaying", "OnPlaying",
    "calls the given handler when the media actually has started playing."⟩,
   ⟨"onprogress", "OnProgress",
    "calls the given handler when the browser is in the process of getting the media data."⟩,
   ⟨"onratechange", "OnRateChange",
    "calls the given handler each time the playback rate changes (like when a user switches to a slow motion or fast forward mode)."⟩,
   ⟨"onseeked", "OnSeeked",
    "calls the given handler when the seeking attribute is set to false indicating that seeking has ended."⟩,
   ⟨"onseeking", "OnSeeking",
    "calls the given handler when the seeking attribute is set to true indicating that seeking is active."⟩,
   ⟨"onstalled", "OnStalled",
    "calls the given handler when the browser is unable to fetch the media data for whatever reason."⟩,
   ⟨"onsuspend", "OnSuspend",
    "calls the given handler when fetching the media data is stopped before it is completely loaded for whatever reason."⟩,
   ⟨"ontimeupdate", "OnTimeUpdate",
    "calls the given handler when the playing position has changed (like when the user fast forwards to a different point in the media)."⟩,
   ⟨"onvolumechange", "OnVolumeChange",
    "calls the given handler each time the volume is changed which (includes setting the volume to \"mute\")."⟩,
   ⟨"onwaiting", "OnWaiting",
    "calls the given handler when the media has paused but is expected to resume (like when the media pauses to buffer more data)."⟩,
   ⟨"ontoggle", "OnToggle",
    "calls the given handler when the user opens or closes the details element."⟩]

end TypedMarkup
