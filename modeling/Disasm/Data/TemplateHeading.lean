/-!
# The start of the default templates

What stands in front of the templates: a description of the form, the aliases and the constants that
arrays use.
-/

namespace Disasm.Data.TemplateHeading

def part1 : String := "
; default templates file

; template [size]
; \x7b
;    [offset] <size or type> name
;    ...
; \x7d
;

; All the BASEQ3 structures defined in cgame/, game/, ui/, and q3_ui/ are
; included here.  This includes the structures defined in header files and
; structures used in individual .c files.
;
; cvarTable_t in ui/ui_main.c is renamed to cvarTable_t_ui since it is also
; defined in game/g_main.c.
;


;;; aliases
; game/q_shared.h
%alias int size_t
%alias int qboolean
%alias int cvarHandle_t
%alias int qhandle_t
%alias int sfxHandle_t
%alias int fileHandle_t
%alias int clipHandle_t

%alias float vec_t
%alias vec_t[2] vec2_t
%alias vec_t[3] vec3_t
%alias vec_t[4] vec4_t
%alias vec_t[5] vec5_t

%alias int fixed4_t
%alias int fixed8_t
%alias int fixed16_t

%alias int signed
%alias int trType_t

%alias int flagStatus_t  ; enum
%alias int connstate_t  ; enum

; game/bg_public.h
%alias int gametype_t  ; enum
%alias int gender_t  ; enum
%alias int itemType_t  ; enum
%alias int team_t  ; enum
%alias int weapon_t  ; enum

; cgame/tr_types.h
%alias int glDriverType_t  ; enum
%alias int glHardwareType_t  ; enum
%alias int refEntityType_t  ; enum
%alias int textureCompression_t  ; enum

; cgame/cg_local.h
%alias int footstep_t  ; enum
%alias int leBounceSoundType_t  ; enum
%alias int leMarkType_t  ; enum
%alias int leType_t  ; enum

; game/g_local.h
%alias gentity_s gentity_t
%alias gclient_s gclient_t
%alias int playerTeamStateState_t  ; enum
%alias int clientConnected_t  ; enum
%alias int spectatorState_t  ; enum
%alias int moverState_t  ; enum

; game/g_spawn.c
%alias int fieldtype_t  ; enum


;;; array constants
; game/q_shared.h

%arrayConstant MAX_TOKENLENGTH 1024
%arrayConstant MAX_CVAR_VALUE_STRING 256
%arrayConstant MAX_CONFIGSTRINGS 1024
%arrayConstant MAX_GAMESTATE_CHARS 16000
%arrayConstant MAX_PS_EVENTS 2
%arrayConstant MAX_STATS 16
%arrayConstant MAX_PERSISTANT 16
%arrayConstant MAX_POWERUPS 16
%arrayConstant MAX_WEAPONS 16
%arrayConstant GLYPHS_PER_FONT 256
%arrayConstant MAX_QPATH 64

%arrayConstant MAX_TEAMNAME 32

%arrayConstant MAX_STRING_CHARS 1024
%arrayConstant MAX_STRING_TOKENS 1024
%arrayConstant MAX_CLIENTS 64
%arrayConstant MAX_NAME_LENGTH 32
%arrayConstant MAX_MODELS 256
%arrayConstant MAX_SOUNDS 256
%arrayConstant MAX_MAP_AREA_BYTES 32
%arrayConstant BIG_INFO_STRING 8192

%arrayConstant MAX_SAY_TEXT 150
%arrayConstant MAX_INFO_STRING 1024

; game/bg_public.h
%arrayConstant MAX_TOTALANIMATIONS 37
%arrayConstant MAX_ITEM_MODELS 4
%arrayConstant TEAM_NUM_TEAMS 4
%arrayConstant MAXTOUCH 32
%arrayConstant MAX_ANIMATIONS 31
%arrayConstant MAX_BOTS 1024

; cgame/cg_local.h
%arrayConstant MAX_VERTS_ON_POLY 10
%arrayConstant MAX_CUSTOM_SOUNDS 32
%arrayConstant MAX_SKULLTRAIL 10
%arrayConstant MAX_PREDICTED_EVENTS 16
%arrayConstant MAX_REWARDSTACK 10
%arrayConstant MAX_SOUNDBUFFER 20
"

def part2 : String := "%arrayConstant NUM_CROSSHAIRS 10
%arrayConstant FOOTSTEP_TOTAL 7
%arrayConstant TEAMCHAT_HEIGHT 8
%arrayConstant TEAMCHAT_WIDTH 80
%arrayConstant TEAMCHAT_WIDTH3_1 241  ;  TEAMCHAT_WIDTH * 3 + 1

; cgame/cg_public.h
%arrayConstant MAX_ENTITIES_IN_SNAPSHOT 256

; cgame/tr_types.h
%arrayConstant MAX_RENDER_STRINGS 8
%arrayConstant MAX_RENDER_STRING_LENGTH 32

; cgame/cg_draw.c
%arrayConstant LAG_SAMPLES 128

; cgame/cg_servercmds.c
%arrayConstant MAX_VOICECHATS 64
%arrayConstant MAX_VOICESOUNDS 64
%arrayConstant MAX_CHATSIZE 64

; game/g_local.h
%arrayConstant MAX_NETNAME 36
%arrayConstant MAX_SPAWN_VARS 64
%arrayConstant MAX_SPAWN_VARS_CHARS 4096
%arrayConstant BODY_QUEUE_SIZE 8
%arrayConstant MAX_FILEPATH 144

; game/ai_main.h
%arrayConstant MAX_ACTIVATEAREAS 32
%arrayConstant MAX_ITEMS 256
%arrayConstant MAX_PROXMINES 64
%arrayConstant MAX_ACTIVATESTACK 8

; game/be_ai_chat.h
%arrayConstant MAX_MESSAGE_SIZE 256
%arrayConstant MAX_MATCHVARIABLES 8

; game/be_aas.h
%arrayConstant MAX_STRINGFIELD 80

; q3_ui/ui_local.h
%arrayConstant MAX_MENUITEMS 64
%arrayConstant MAX_EDIT_LINE 256
%arrayConstant MAX_MENUDEPTH 8

; q3_ui/ui_demos2.c
%arrayConstant MAX_DEMOS 128
%arrayConstant NAMEBUFSIZE_DEMOS 2048  ; MAX_DEMOS * 16

; q3_ui/ui_loadconfig.c
%arrayConstant MAX_CONFIGS 128
%arrayConstant NAMEBUFSIZE_CONFIGS 2048  ; MAX_CONFIGS * 16

; q3_ui/ui_mods.c
%arrayConstant MAX_MODS 64
%arrayConstant NAMEBUFSIZE_MODS 3072  ; MAX_MODS * 48
%arrayConstant GAMEBUFSIZE 1024  ; MAX_MODS * 16

; q3_ui/ui_playermodel.c
%arrayConstant MAX_MODELSPERPAGE 16  ; PLAYERGRID_ROWS * PLAYERGRID_COLS
%arrayConstant MAX_PLAYERMODELS 256

; q3_ui/ui_servers2.c
%arrayConstant MAX_ADDRESSLENGTH 64
%arrayConstant MAX_HOSTNAMELENGTH_3 25  ;  MAX_HOSTNAMELENGTH + 3
%arrayConstant MAX_MAPNAMELENGTH 16
%arrayConstant MAX_LISTBOXWIDTH_SERVERS 68

; q3_ui/ui_sppostgame.c
%arrayConstant MAX_SCOREBOARD_CLIENTS 8

; q3_ui/ui_startserver.c
%arrayConstant MAX_MAPSPERPAGE 4
%arrayConstant MAX_SERVERMAPS 64
%arrayConstant MAX_NAMELENGTH_START_SERVER 16
%arrayConstant PLAYER_SLOTS 12

;;; templates
"

def text : String := String.join [part1, part2]

end Disasm.Data.TemplateHeading
