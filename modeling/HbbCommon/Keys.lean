/-! The option names of `config::keys` that the modelled functions read. -/

namespace HbbCommon.keys

def optionShowRemoteCursor : String := "show_remote_cursor"
def optionFollowRemoteCursor : String := "follow_remote_cursor"
def optionFollowRemoteWindow : String := "follow_remote_window"
def optionZoomCursor : String := "zoom-cursor"
def optionShowQualityMonitor : String := "show_quality_monitor"
def optionDisableAudio : String := "disable_audio"
def optionEnableFileCopyPaste : String := "enable-file-copy-paste"
def optionDisableClipboard : String := "disable_clipboard"
def optionLockAfterSessionEnd : String := "lock_after_session_end"
def optionPrivacyMode : String := "privacy_mode"
def optionTouchMode : String := "touch-mode"
def optionI444 : String := "i444"
def optionReverseMouseWheel : String := "reverse_mouse_wheel"
def optionSwapLeftRightMouse : String := "swap-left-right-mouse"
def optionDisplaysAsIndividualWindows : String := "displays_as_individual_windows"
def optionUseAllMyDisplaysForTheRemoteSession : String :=
  "use_all_my_displays_for_the_remote_session"
def optionViewStyle : String := "view_style"
def optionScrollStyle : String := "scroll_style"
def optionImageQuality : String := "image_quality"
def optionCustomImageQuality : String := "custom_image_quality"
def optionCustomFps : String := "custom-fps"
def optionCodecPreference : String := "codec-preference"
def optionCollapseToolbar : String := "collapse_toolbar"
def optionTrackpadSpeed : String := "trackpad-speed"
def optionLanguage : String := "lang"
def optionCustomRendezvousServer : String := "custom-rendezvous-server"
def optionProxyUrl : String := "proxy-url"
def optionProxyUsername : String := "proxy-username"
def optionProxyPassword : String := "proxy-password"
def optionDirectServer : String := "direct-server"
def optionAllowWebsocket : String := "allow-websocket"
def optionRegisterDevice : String := "register-device"
def optionAllowHostnameAsId : String := "allow-hostname-as-id"

end HbbCommon.keys
