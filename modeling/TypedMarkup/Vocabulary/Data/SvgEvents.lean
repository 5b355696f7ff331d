import TypedMarkup.Vocabulary.Event

namespace TypedMarkup

def svgEventEntries : List Event :=
  [⟨"onbegin", "OnBegin", ""⟩,
   ⟨"onend", "OnEnd", ""⟩,
   ⟨"onrepeat", "OnRepeat", ""⟩,
   ⟨"oncopy", "OnCopy", ""⟩,
   ⟨"oncut", "OnCut", ""⟩,
   ⟨"onpaste", "OnPaste", ""⟩,
   ⟨"onabort", "OnAbort", ""⟩,
   ⟨" onerror", "OoNerror", ""⟩,
   ⟨" onresize", "OoNresize", ""⟩,
   ⟨" onscroll", "OoNscroll", ""⟩,
   ⟨" onunload", "OoNunload", ""⟩,
   ⟨"onactivate", "OnActivate", ""⟩,
   ⟨"onfocusin", "OnFocusin", ""⟩,
   ⟨"onfocusout", "OnFocusout", ""⟩,
   ⟨"oncancel", "OnCancel", ""⟩,
   ⟨"oncanplay", "OnCanplay", ""⟩,
   ⟨"oncanplaythrough", "OnCanplaythrough", ""⟩,
   ⟨"onchange", "OnChange", ""⟩,
   ⟨"onclick", "OnClick", ""⟩,
   ⟨"onclose", "OnClose", ""⟩,
   ⟨"oncuechange", "OnCuechange", ""⟩,
   ⟨"ondblclick", "OnDblclick", ""⟩,
   ⟨"ondrag", "OnDrag", ""⟩,
   ⟨"ondragend", "OnDragend", ""⟩,
   ⟨"ondragenter", "OnDragenter", ""⟩,
   ⟨"ondragleave", "OnDragleave", ""⟩,
   ⟨"ondragover", "OnDragover", ""⟩,
   ⟨"ondragstart", "OnDragstart", ""⟩,
   ⟨"ondrop", "OnDrop", ""⟩,
   ⟨"ondurationchange", "OnDurationchange", ""⟩,
   ⟨"onemptied", "OnEmptied", ""⟩,
   ⟨"onended", "OnEnded", ""⟩,
   ⟨"onerror", "OnError", ""⟩,
   ⟨"onfocus", "OnFocus", ""⟩,
   ⟨"oninput", "OnInput", ""⟩,
   ⟨"oninvalid", "OnInvalid", ""⟩,
   ⟨"onkeydown", "OnKeyDown", ""⟩,
   ⟨"onkeypress", "OnKeyPress", ""⟩,
   ⟨"onkeyup", "OnKeyUp", ""⟩,
   ⟨"onload", "OnLoad", ""⟩,
   ⟨"onloadeddata", "OnLoadeddata", ""⟩,
   ⟨"onloadedmetadata", "OnLoadedmetadata", ""⟩,
   ⟨"onloadstart", "OnLoadstart", ""⟩,
   ⟨"onmousedown", "OnMousedown", ""⟩,
   ⟨"onmouseenter", "OnMouseenter", ""⟩,
   ⟨"onmouseleave", "OnMouseleave", ""⟩,
   ⟨"onmousemove", "OnMousemove", ""⟩,
   ⟨"onmouseout", "OnMouseout", ""⟩,
   ⟨"onmouseover", "OnMouseover", ""⟩,
   ⟨"onmouseup", "OnMouseup", ""⟩,
   ⟨"onmousewheel", "OnMousewheel", ""⟩,
   ⟨"onpause", "OnPause", ""⟩,
   ⟨"onplay", "OnPlay", ""⟩,
   ⟨"onplaying", "OnPlaying", ""⟩,
   ⟨"onprogress", "OnProgress", ""⟩,
   ⟨"onratechange", "OnRatechange", ""⟩,
   ⟨"onreset", "OnReset", ""⟩,
   ⟨"onresize", "OnResize", ""⟩,
   ⟨"onscroll", "OnScroll", ""⟩,
   ⟨"onseeked", "OnSeeked", ""⟩,
   ⟨"onseeking", "OnSeeking", ""⟩,
   ⟨"onselect", "OnSelect", ""⟩,
   ⟨"onshow", "OnShow", ""⟩,
   ⟨"onstalled", "OnStalled", ""⟩,
   ⟨"onsubmit", "OnSubmit", ""⟩,
   ⟨"onsuspend", "OnSuspend", ""⟩,
   ⟨"ontimeupdate", "OnTimeupdate", ""⟩,
   ⟨"ontoggle", "OnToggle", ""⟩,
   ⟨"onvolumechange", "OnVolumechange", ""⟩,
   ⟨"onwaiting", "OnWaiting", ""⟩]

end TypedMarkup
