/-!
# Functions of the menu program of the base game

Each line holds an address, the name of the function there and the hash of its code.
-/

namespace Disasm.Data.MenuHashes

def part1 : String := "0x0 vmMain -54f83c1
0x7c UI_RegisterCvars -777375ea
0xb1 UI_UpdateCvars -6dc7da53
0xd4 BG_FindItemForPowerup -39422a47
0x117 BG_FindItemForHoldable 6efd71d3
0x151 BG_FindItemForWeapon -4cb0f364
0x184 BG_FindItem 7bb9fc95
0x1af BG_PlayerTouchesItem -40f17c2e
0x20f BG_CanItemBeGrabbed 7b82bab1
0x340 BG_EvaluateTrajectory 73ee8816
0x510 BG_EvaluateTrajectoryDelta 2c007b0e
0x60a BG_AddPredictableEventToPlayerstate -58308e0f
0x645 BG_TouchJumpPad 9dc6c37
0x6b5 BG_PlayerStateToEntityState -398fa699
0x8af BG_PlayerStateToEntityStateExtraPolate 759f3bc6
0xab6 Q_rand -9237ddd
0xacb Q_random 269cb597
0xadd Q_crandom 1446ae9f
0xaee VectorCompare -2ac60b4c
0xb26 VectorLength 9db4615
0xb59 VectorLengthSquared 7251510d
0xb85 Distance 3253a2a0
0xbc6 DistanceSquared 5c3f3606
0xc14 VectorNormalizeFast 298c01b3
0xc73 VectorInverse -4076a305
0xc9b CrossProduct -64f836e
0xd14 ClampChar 2180e3cb
0xd2b ClampShort 740806e
0xd42 DirToByte 241b7a27
0xd9d ByteToDir -cd05348
0xdbb ColorBytes3 124c69b9
0xe2a ColorBytes4 -7aeaa05b
0xebc NormalizeColor 10019a6
0xf32 PlaneFromPoints -47c2bbc2
0xff0 RotatePointAroundVector 12c0bbdd
0x10fb RotateAroundDirection -725aa774
0x113f vectoangles -d1a5869
0x11fb AnglesToAxis 3b564061
0x1230 AxisClear -3e014c8
0x1267 AxisCopy -408ae08b
0x128b ProjectPointOnPlane 78d7f1a8
0x1346 MakeNormalVectors 1177080b
0x13f1 VectorRotate 44b085ed
0x148e Q_rsqrt 2db2b109
0x14c5 Q_fabs -4655c38d
0x14d5 LerpAngle 4ccf1903
0x1506 AngleSubtract 78605e9e
0x152b AnglesSubtract -15be7664
0x1579 AngleMod 16ea6a15
0x158b AngleNormalize360 2d1c29cd
0x1599 AngleNormalize180 50f1dbbe
0x15b4 AngleDelta a09bc6a
0x15c4 SetPlaneSignbits f9ff3d0
0x15f1 BoxOnPlaneSide -41d9d8d8
0x19b2 RadiusFromBounds -4d85b6cd
0x1a05 ClearBounds -818e1a5
0x1a3c AddPointToBounds 41ffad57
0x1ad5 VectorNormalize -67c82bfd
0x1b45 VectorNormalize2 45236424
0x1bd3 _VectorMA 739882a
0x1c15 _DotProduct 47b4f428
0x1c4a _VectorSubtract -14e59bb3
0x1c83 _VectorAdd -12c9c172
0x1cbc _VectorCopy -46194af2
0x1ce3 _VectorScale -6b43ab1c
0x1d13 Vector4Scale -20190a8d
0x1d55 Q_log2 1d696e03
0x1d74 MatrixMultiply f1d3ad8
0x1f49 AngleVectors 3d39955c
0x2041 PerpendicularVector 2b5c319b
0x20ad Com_Clamp b42b554
0x20c7 COM_SkipPath -7890e297
0x20eb COM_StripExtension 18e9ca28
0x2121 COM_DefaultExtension -52747e97
0x2169 ShortSwap -3bbffb33
0x2189 ShortNoSwap -71140ad4
0x2194 LongSwap 7afadc87
0x21c7 LongNoSwap -4cbdf135
0x21cd Long64Swap 2d420e5d
0x220a Long64NoSwap -bb3c22
0x2212 FloatSwap -299d1867
0x2228 FloatNoSwap 1e5f19fa
0x222f COM_BeginParseSession 6e5dc4ed
0x2241 COM_GetCurrentParseLine -2ac47bb
0x2247 COM_Parse 6a6528ae
0x2256 COM_ParseError -61f78d4c
0x2276 COM_ParseWarning -61f78d4c
0x2296 SkipWhitespace -1740a178
0x22cd COM_Compress -47e3d24e
0x2420 COM_ParseExt 5e0fbe8
0x256c COM_MatchToken 214c706e
0x2595 SkipBracedSection -68f58843
0x25d3 SkipRestOfLine -66722e6b
0x260b Parse1DMatrix -5dfdb3d8
0x264a Parse2DMatrix -69c8f842
0x2685 Parse3DMatrix -56528b06
0x26ca Q_isprint -31452673
0x26df Q_islower -31452673
0x26f4 Q_isupper -31452673
0x2709 Q_isalpha 5b5b2ecf
0x272a Q_strrchr -67b7e59a
0x275e Q_strncpyz -1f6fe6d7
0x2799 Q_stricmpn -732323fa
0x2824 Q_strncmp 53e5f934
0x2876 Q_stricmp -12528a0d
0x289e Q_strlwr 2cb7e721
0x28c4 Q_strupr 2cb7e721
0x28ea Q_strcat 3eb8ac19
0x2916 Q_PrintStrlen -1d33f11b
0x2966 Q_CleanStr -7f41eb17
0x29cc Com_sprintf -63c465ea
0x2a0b va 543eff22
0x2a38 Info_ValueForKey -fbaa4dc
0x2b18 Info_NextPair 2b78359a
0x2bb6 Info_RemoveKey 39369abb
0x2c86 Info_RemoveKey_Big 2d0980fa
0x2d56 Info_Validate -2175fdd6
0x2d7d Info_SetValueForKey 3074aec7
0x2e4d Info_SetValueForKey_Big -4daf929c
0x2f15 UI_AddBotsMenu_FightEvent 3afd9369
"

def part2 : String := "0x2f57 UI_AddBotsMenu_BotEvent -ceb9e
0x2f79 UI_AddBotsMenu_BackEvent 13bb7989
0x2f85 UI_AddBotsMenu_SetBotNames 2ed41769
0x2fc0 UI_AddBotsMenu_UpEvent -19c98bf3
0x2fdb UI_AddBotsMenu_DownEvent -6481ba17
0x2ff9 UI_AddBotsMenu_SortCompare -2c01eb35
0x3043 UI_AddBotsMenu_GetSortedBotNums -1fec1ed4
0x306b UI_AddBotsMenu_Draw -4c616f76
0x308d UI_AddBotsMenu_Init -7c31d043
0x3288 UI_AddBots_Cache 2b0d8bda
0x32b3 UI_AddBotsMenu -ab66855
0x32be Com_Error 1d514d0d
0x32e0 Com_Printf 536dc268
0x3302 UI_ClampCvar b42b554
0x331c UI_StartDemoLoop 798908e1
0x3326 UI_PushMenu -34ab25b5
0x33c1 UI_PopMenu 2976fb3e
0x33f5 UI_ForceMenuOff 3fa7a1b5
0x3414 UI_LerpColor -33cbf3d9
0x346f UI_DrawBannerString2 563ec65b
0x3535 UI_DrawBannerString 1da2c91d
0x35e3 UI_ProportionalStringWidth 676a1a9e
0x3626 UI_DrawProportionalString2 -21e45430
0x36ef UI_ProportionalSizeScale -50be75f2
0x36fe UI_DrawProportionalString -4a6c3f82
0x3852 UI_DrawProportionalString_AutoWrapped 67cbcc1e
0x3936 UI_DrawString2 3b218fe1
0x3a20 UI_DrawString -1141d89f
0x3b38 UI_DrawChar -70fd971e
0x3b53 UI_IsFullscreen -4bb3537b
0x3b6e NeedCDAction e13cf16
0x3b7c NeedCDKeyAction e13cf16
0x3b8a UI_SetActiveMenu 408086f4
0x3bd8 UI_KeyEvent 47ab9069
0x3c1e UI_MouseEvent -20f7fbf3
0x3d24 UI_Argv 21f79e9b
0x3d33 UI_Cvar_VariableString 40408afb
0x3d42 UI_Cache_f -4ec600b5
0x3d9c UI_ConsoleCommand -64bc607d
0x3e4e UI_Shutdown -64bac70e
0x3e51 UI_Init -3a793d7f
0x3e8a UI_AdjustFrom640 8883dca
0x3ec4 UI_DrawNamedPic -3fba0f5b
0x3f01 UI_DrawHandlePic -2d9e9776
0x3f5b UI_FillRect -4141eb9f
0x3f95 UI_DrawRect -1362a24f
0x4042 UI_SetColor 5bdab5db
0x404b UI_UpdateScreen 67dd25fe
0x4051 UI_Refresh 2af35822
0x4128 UI_DrawTextBox -47a6d238
0x418b UI_CursorInRect 18ce4799
0x41b6 UI_CDKeyMenu_Event -4e67157e
0x41e2 UI_CDKeyMenu_PreValidateKey 2f25e99c
0x423c UI_CDKeyMenu_DrawKey 6cebacbf
0x430f UI_CDKeyMenu_Init d11e4a4
0x43e6 UI_CDKeyMenu_Cache -1f6e502b
0x4402 UI_CDKeyMenu -ab66855
0x440d UI_CDKeyMenu_f 36e2f497
0x4413 UI_CinematicsMenu_BackEvent 13bb7989
0x441f UI_CinematicsMenu_Event 8fb754f
0x446c UI_CinematicsMenu_Init -398c56f4
0x4742 UI_CinematicsMenu_Cache 14039966
0x4759 UI_CinematicsMenu -ab66855
0x4764 UI_CinematicsMenu_f 60a51b25
0x4788 ConfirmMenu_Event -28854aa2
0x47ae ConfirmMenu_Key 15af7570
0x4823 MessageMenu_Draw 22c93df3
0x4874 ConfirmMenu_Draw 478a1b90
0x48ae ConfirmMenu_Cache 28af01f9
0x48b6 UI_ConfirmMenu_Style 4bcccb1c
0x497d UI_ConfirmMenu -3c1096cf
0x498e UI_Message 5835847
0x49ff UI_ReadableSize 15ee79af
0x4ab4 UI_PrintTime -3afdbe9a
0x4b15 UI_DisplayDownloadInfo -66558db
0x4d2a UI_DrawConnectScreen -685ee7d0
0x4e26 UI_KeyConnect e13cf16
0x4e34 Controls_InitCvars -364c6724
0x4e84 Controls_GetCvarDefault -9321f7e
0x4ebb Controls_GetCvarValue -9321f7e
0x4ef2 Controls_UpdateModel 23aa49ec
0x4fec Controls_Update 7737956e
0x51ee Controls_DrawKeyBinding 3545d6b1
0x5397 Controls_StatusBar -5c86731e
0x53a7 Controls_DrawPlayer 7119da54
0x53fc Controls_GetKeyAssignment 554ad4cb
0x5456 Controls_GetConfig 578fe4be
0x553b Controls_SetConfig -526bab1b
0x55f8 Controls_SetDefaults -29317027
0x568d Controls_MenuKey 158a0a92
0x582a Controls_ResetDefaults_Action -6c2ec13
0x583c Controls_ResetDefaults_Draw -40926a4a
0x5859 Controls_MenuEvent 553e7a71
0x58ee Controls_ActionEvent 4203747
0x591e Controls_InitModel -5a411a63
0x593d Controls_InitWeapons 283bbb2c
0x5962 Controls_MenuInit 6b700f45
0x5ead Controls_Cache 14039966
0x5ec4 UI_ControlsMenu -ab66855
0x5ecf UI_CreditMenu_Key -7965cd42
0x5ee5 UI_CreditMenu_Draw 34e06b64
0x6099 UI_CreditMenu -2a5cb948
0x60b3 Demos_MenuEvent -42a90471
0x6104 UI_DemosMenu_Key 384f4b1
0x611d Demos_MenuInit 35535352
0x62ec Demos_Cache -7d048ebf
0x631c UI_DemosMenu -ab66855
0x6327 UI_DisplayOptionsMenu_Event -614f8f98
0x637a UI_DisplayOptionsMenu_Init 488af896
0x6506 UI_DisplayOptionsMenu_Cache 14039966
0x651d UI_DisplayOptionsMenu 34e64b92
0x652f UI_Alloc -53c224f1
0x6559 UI_InitMemory -5a96a2d2
0x6562 UI_ParseInfos 475c06a9
0x6650 UI_LoadArenasFromFile -51f4fc4f
0x66d0 UI_LoadArenas 78f0219d
0x68e2 UI_GetArenaInfoByNumber 4d4969ea
0x6945 UI_GetArenaInfoByMap -13268b5d
0x6980 UI_GetSpecialArenaInfo -13268b5d
0x69bb UI_LoadBotsFromFile 6a95487f
"

def part3 : String := "0x6a44 UI_LoadBots -af0415c
0x6ac5 UI_GetBotInfoByNumber -c95169
0x6af0 UI_GetBotInfoByName 711ed264
0x6b2f UI_GetBestScore 5d6aedae
0x6bba UI_SetBestScore 3e994e25
0x6c41 UI_LogAwardData -67572b0f
0x6ca4 UI_GetAwardLevel -6be6606e
0x6cce UI_TierCompleted -176a1cb6
0x6d6a UI_ShowTierVideo 2c90b857
0x6dbc UI_CanShowTierVideo -2775fc70
0x6e01 UI_GetCurrentGame 6b1aee5a
0x6e91 UI_NewGame -2882871e
0x6ec5 UI_GetNumArenas -2ac47bb
0x6ecb UI_GetNumSPArenas -2ac47bb
0x6ed1 UI_GetNumSPTiers 4f9bddc6
0x6ed9 UI_GetNumBots -2ac47bb
0x6edf UI_SPUnlock_f -7830c536
0x6f35 UI_SPUnlockMedals_f 14ae0ff6
0x6f6f UI_InitGameinfo 1a8c185e
0x6f95 InGame_RestartAction 1b01386f
0x6fa8 InGame_QuitAction -6dccb5a8
0x6fb7 InGame_Event -5853cfd7
0x7017 InGame_MenuInit 660d4e41
0x7290 InGame_Cache 28af01f9
0x7298 UI_InGameMenu -21c30f94
0x72ac LoadConfig_MenuEvent 22fbdb4d
0x72fd LoadConfig_MenuInit -60f12c94
0x74b6 UI_LoadConfig_Cache -7d048ebf
0x74e6 UI_LoadConfigMenu -ab66855
0x74f1 MainMenu_ExitAction -6dccb5a8
0x7500 Main_MenuEvent -ad9943c
0x7557 MainMenu_Cache -d5e1612
0x7564 ErrorMessage_Key -457e326c
0x7574 Main_MenuDraw 5e71c561
0x766a UI_TeamArenaExists 384a5246
0x76ca UI_MainMenu 73e8a4db
0x78ba MField_Draw 49e3a161
0x79d8 MField_Paste 2d5422b7
0x7a09 MField_KeyDownEvent 23ef9851
0x7b89 MField_CharEvent 699dfcf1
0x7d14 MField_Clear 46e9357e
0x7d27 MenuField_Init -5bae2ec9
0x7db2 MenuField_Draw 4dd8a77f
0x7ea6 MenuField_Key 509330f1
0x7f76 UI_Mods_MenuEvent 1a40176d
0x7fac UI_Mods_ParseInfos -2e2783f7
0x8016 UI_Mods_LoadMods -14b28f53
0x809d UI_Mods_MenuInit 1893973f
0x816f UI_ModsMenu_Cache 4c788730
0x8190 UI_ModsMenu -ab66855
0x819b UI_NetworkOptionsMenu_Event 556b4040
0x8217 UI_NetworkOptionsMenu_Init -18872bc4
0x8382 UI_NetworkOptionsMenu_Cache 14039966
0x8399 UI_NetworkOptionsMenu 34e64b92
0x83ab Options_Event 309b38cb
0x83e2 SystemConfig_Cache 14039966
0x83f9 Options_MenuInit -6812cb5e
0x8536 UI_SystemConfigMenu -ab66855
0x8541 PlayerModel_UpdateGrid 6973c36a
0x864a PlayerModel_UpdateModel -3bc204c
0x8686 PlayerModel_SaveChanges -f47e6ee
0x86a5 PlayerModel_MenuEvent -ff47d87
0x86f4 PlayerModel_MenuKey -4e04642c
0x8813 PlayerModel_PicEvent -476e4c56
0x890e PlayerModel_DrawPlayer 384a233e
0x8962 PlayerModel_BuildList -431aff97
0x8a97 PlayerModel_SetMenuItems -ee51c9e
0x8b61 PlayerModel_MenuInit -7270fb38
0x8e0b PlayerModel_Cache -20f7f34d
0x8e4a UI_PlayerModelMenu -7b564ab9
0x8e63 UI_PlayerInfo_SetWeapon 37daaac2
0x9024 UI_ForceLegsAnim -67ec15ce
0x9049 UI_SetLegsAnim -248b6b50
0x9069 UI_ForceTorsoAnim -4d3e381a
0x90a0 UI_SetTorsoAnim -248b6b50
0x90c0 UI_TorsoSequencing 20ed65d3
0x9146 UI_LegsSequencing -75616a2f
0x9199 UI_PositionEntityOnTag -6c35268d
0x925e UI_PositionRotatedEntityOnTag 31fe2986
0x9320 UI_SetLerpFrameAnimation 681f53a
0x9371 UI_RunLerpFrame -4b675e66
0x94c1 UI_PlayerAnimation -1128a517
0x9589 UI_SwingAngles 420040db
0x968e UI_MovedirAdjustment 3702d1a5
0x9765 UI_PlayerAngles 39118836
0x9880 UI_PlayerFloatSprite 5b25f692
0x98a8 UI_MachinegunSpinAngle 657c9f8c
0x993c UI_DrawPlayer -2c6c4f54
0x9ca2 UI_RegisterClientSkin 3fbda64
0x9d1e UI_ParseAnimationFile -19ca9f6e
0x9efd UI_RegisterClientModelname 1bf18d76
0xa017 UI_PlayerInfo_SetModel 30253aa7
0xa077 UI_PlayerInfo_SetInfo -5cb63010
0xa26f PlayerSettings_DrawName 7fe29e0f
0xa3ab PlayerSettings_DrawHandicap -247ccf58
0xa41d PlayerSettings_DrawEffects 58c9e09a
0xa4ba PlayerSettings_DrawPlayer -36a31252
0xa524 PlayerSettings_SaveChanges 642b5fdd
0xa549 PlayerSettings_MenuKey -5cc4b605
0xa567 PlayerSettings_SetMenuItems -285cc416
0xa5ea PlayerSettings_MenuEvent 3ec3d7d1
0xa62d PlayerSettings_MenuInit -5eea7237
0xa7b4 PlayerSettings_Cache 7a7610c0
0xa825 UI_PlayerSettingsMenu -ab66855
0xa830 Preferences_SetMenuItems -6dc013a2
0xa91c Preferences_Event -6b75af7f
0xa9e8 Crosshair_Draw -2cd5a74d
0xaadd Preferences_MenuInit 7ea70953
0xad15 Preferences_Cache -102298ab
0xad54 UI_PreferencesMenu -ab66855
0xad5f Text_Init -34b0596b
0xad70 Text_Draw -32743ca1
0xadd1 BText_Init -34b0596b
0xade2 BText_Draw 658962dd
0xae24 PText_Init 6628d747
0xaeb1 PText_Draw 551f5f16
0xaf1d Bitmap_Init -426edaec
0xafa0 Bitmap_Draw 4066978
0xb1a2 Action_Init 52eddff0
0xb203 Action_Draw -41a1afcf
"

def part4 : String := "0xb2ad RadioButton_Init -592968af
0xb312 RadioButton_Key -139c0393
0xb3b5 RadioButton_Draw -373d1c37
0xb4db Slider_Init -592968af
0xb540 Slider_Key -9f28d39
0xb664 Slider_Draw -1182d4f1
0xb777 SpinControl_Init 6238d8c7
0xb82f SpinControl_Key -4a7988ca
0xb8ef SpinControl_Draw 7de8ddf4
0xb9e0 ScrollList_Init 5f96442e
0xbaa5 ScrollList_Key -533bbd13
0xc0f9 ScrollList_Draw 66d674fe
0xc20a Menu_AddItem 656b37e
0xc309 Menu_CursorMoved 3f115cf2
0xc3ac Menu_SetCursor -10ae59c5
0xc3d9 Menu_SetCursorToItem 41707edf
0xc407 Menu_AdjustCursor 3971d055
0xc4cc Menu_Draw 22cfa72c
0xc614 Menu_ItemAtCursor 65a62a39
0xc640 Menu_ActivateItem 3db2fec7
0xc66a Menu_DefaultKey 476d39aa
0xc875 Menu_Cache -65d8b281
0xc949 UI_RemoveBotsMenu_SetBotNames -ca3c22d
0xc998 UI_RemoveBotsMenu_DeleteEvent 57bcca87
0xc9ba UI_RemoveBotsMenu_BotEvent -ceb9e
0xc9dc UI_RemoveBotsMenu_BackEvent 13bb7989
0xc9e8 UI_RemoveBotsMenu_UpEvent -19c98bf3
0xca03 UI_RemoveBotsMenu_DownEvent -6481ba17
0xca21 UI_RemoveBotsMenu_GetBots 3a1e008e
0xca8c UI_RemoveBots_Cache -1f6e502b
0xcaa8 UI_RemoveBotsMenu_Init bf20f50
0xcc42 UI_RemoveBotsMenu -ab66855
0xcc4d UI_SaveConfigMenu_BackEvent 13bb7989
0xcc59 UI_SaveConfigMenu_SaveEvent 674e08d4
0xcc83 UI_SaveConfigMenu_SavenameDraw 18d66b8c
0xcce8 UI_SaveConfigMenu_Init -5e685797
0xcda4 UI_SaveConfigMenu_Cache -1f6e502b
0xcdc0 UI_SaveConfigMenu -ab66855
0xcdcb Favorites_Add 1ef6f0aa
0xce3d ServerInfo_Event -78ac0855
0xce68 ServerInfo_MenuDraw 90651e4
0xcec0 ServerInfo_MenuKey -209d7b2
0xcecf ServerInfo_Cache -86d3641
0xcef3 UI_ServerInfoMenu -3600619c
0xcff7 ArenaServers_MaxPing fea0c4c
0xd00f ArenaServers_Compare -5dc67984
0xd114 ArenaServers_Go 49fc4f4d
0xd135 ArenaServers_UpdatePicture -3ac0b2b5
0xd15e ArenaServers_UpdateMenu -18302908
0xd44f ArenaServers_Remove -a99ceb
0xd51a ArenaServers_Insert -40dfcaee
0xd6a4 ArenaServers_InsertFavorites 7f777bbf
0xd703 ArenaServers_LoadFavorites 71494d99
0xd7e0 ArenaServers_StopRefresh 6f9a23aa
0xd812 ArenaServers_DoRefresh -521a4a1f
0xd98d ArenaServers_StartRefresh 739ca6b8
0xda91 ArenaServers_SaveChanges -52ea5e4b
0xdadb ArenaServers_Sort 1dbb816f
0xdaf7 ArenaServers_SetType 306f6c1
0xdb8e Punkbuster_ConfirmEnable 13652316
0xdbb0 Punkbuster_ConfirmDisable 30de6f62
0xdbd7 ArenaServers_Event 75928731
0xdcc4 ArenaServers_MenuDraw -236c9c6e
0xdcd3 ArenaServers_MenuKey 6c04972a
0xdd29 ArenaServers_MenuInit -fd53787
0xe0d8 ArenaServers_Cache 430561c7
0xe126 UI_ArenaServersMenu -ab66855
0xe131 Setup_ResetDefaults_Action fc3c2a8
0xe14f Setup_ResetDefaults_Draw -40926a4a
0xe16c UI_SetupMenu_Event -59b4615d
0xe1b3 UI_SetupMenu_Init 3fcfbb82
0xe345 UI_SetupMenu_Cache 14039966
0xe35c UI_SetupMenu -ab66855
0xe367 UI_SoundOptionsMenu_Event 123c60b6
0xe3e8 UI_SoundOptionsMenu_Init 50f1399b
0xe5a1 UI_SoundOptionsMenu_Cache 14039966
0xe5b8 UI_SoundOptionsMenu 34e64b92
0xe5ca UI_SPArena_Start 65087663
0xe65a SpecifyServer_Event -627cded7
0xe6b4 SpecifyServer_MenuInit 490e83b4
0xe7a7 SpecifyServer_Cache -86d3641
0xe7cb UI_SpecifyServerMenu -ab66855
0xe7d6 PlayerIcon -10e5842a
0xe83b PlayerIconHandle 37830e7b
0xe851 UI_SPLevelMenu_SetBots -4bd22fa9
0xe940 UI_SPLevelMenu_SetMenuArena -504fb981
0xea04 UI_SPLevelMenu_SetMenuItems 231cdfd9
0xebc9 UI_SPLevelMenu_ResetDraw -60560b06
0xec00 UI_SPLevelMenu_ResetAction -621fe3a9
0xec19 UI_SPLevelMenu_ResetEvent 90a209
0xec2b UI_SPLevelMenu_LevelEvent 25aae9bf
0xec6e UI_SPLevelMenu_LeftArrowEvent -3821bbb8
0xec8c UI_SPLevelMenu_RightArrowEvent -452523a7
0xecaa UI_SPLevelMenu_PlayerEvent 13bb7989
0xecb6 UI_SPLevelMenu_AwardEvent 43f3a13f
0xecd5 UI_SPLevelMenu_NextEvent -6d2a4f25
0xecf2 UI_SPLevelMenu_BackEvent -4629bb20
0xed05 UI_SPLevelMenu_CustomEvent -18f93624
0xed13 UI_SPLevelMenu_MenuDraw 706d24f2
0xf020 UI_SPLevelMenu_Cache -689dc73a
0xf0f4 UI_SPLevelMenu_Init 5ba1ed5
0xf42b UI_SPLevelMenu -f82b399
0xf4d3 UI_SPLevelMenu_f -39675290
0xf4e1 UI_SPLevelMenu_ReInit 46b58ad7
0xf4e7 UI_SPPostgameMenu_AgainEvent -723be92a
0xf4fa UI_SPPostgameMenu_NextEvent 57dd363d
0xf55a UI_SPPostgameMenu_MenuEvent -723be92a
0xf56d UI_SPPostgameMenu_MenuKey 5dd940
0xf5c6 UI_SPPostgameMenu_DrawAwardsMedals 273c9354
0xf64a UI_SPPostgameMenu_DrawAwardsPresentation 14d1504a
0xf6c7 UI_SPPostgameMenu_MenuDrawScoreLine 5ee9033f
0xf750 UI_SPPostgameMenu_MenuDraw 34bb550b
0xf8d8 UI_SPPostgameMenu_Cache 64cf6c7e
0xf942 UI_SPPostgameMenu_Init -69a906bf
0xf9c6 Prepname 6d2b4149
0xfa25 UI_SPPostgameMenu_f 49c06014
0xfd6c SetSkillColor -72a831ac
0xfd9f UI_SPSkillMenu_SkillEvent -79538575
0xfdf6 UI_SPSkillMenu_FightEvent 1d18d695
0xfe05 UI_SPSkillMenu_BackEvent -71578483
"

def part5 : String := "0xfe19 UI_SPSkillMenu_Key 419c990a
0xfe3c UI_SPSkillMenu_Cache -6326f2d6
0xfea2 UI_SPSkillMenu_Init 585b0891
0x1002f UI_SPSkillMenu -44403c0b
0x10045 GametypeBits -7a8cb85f
0x100d1 StartServer_Update 22f16c5d
0x10200 StartServer_MapEvent -8c49bf4
0x1021a StartServer_GametypeEvent 52c72b76
0x102ce StartServer_MenuEvent -8b86596
0x10332 StartServer_LevelshotDraw -5ac04764
0x10479 StartServer_MenuInit -63397554
0x106f8 StartServer_Cache -7cedd69a
0x107c8 UI_StartServerMenu -2eccb496
0x107d7 BotAlreadySelected -28033479
0x10824 ServerOptions_Start 99a7092
0x10a47 ServerOptions_InitPlayerItems -20ef33d4
0x10af5 ServerOptions_SetPlayerItems -454f6116
0x10b91 ServerOptions_Event 43108f30
0x10bd5 ServerOptions_PlayerNameEvent -4dfa66b5
0x10bf3 ServerOptions_StatusBar -7a0a827
0x10c0c ServerOptions_LevelshotDraw -523bbd22
0x10c9e ServerOptions_InitBotNames -70052861
0x10df5 ServerOptions_SetMenuItems 3cf113f7
0x10f80 PlayerName_Draw 55bcb960
0x11060 ServerOptions_MenuInit -709d67de
0x1143a ServerOptions_Cache 4c788730
0x1145b UI_ServerOptionsMenu 3a7174ca
0x11469 UI_BotSelectMenu_SortCompare -2c01eb35
0x114b3 UI_BotSelectMenu_BuildList -5a943768
0x114fd ServerPlayerIcon -10e5842a
0x11562 UI_BotSelectMenu_UpdateGrid -1f302d2c
0x116d7 UI_BotSelectMenu_Default -4bc7bcd5
0x11746 UI_BotSelectMenu_LeftEvent -556e8c93
0x11767 UI_BotSelectMenu_RightEvent -4e4b12f2
0x1178b UI_BotSelectMenu_BotEvent 48a5ae0
0x117f1 UI_BotSelectMenu_BackEvent 13bb7989
0x117fd UI_BotSelectMenu_SelectEvent 19021ae9
0x11821 UI_BotSelectMenu_Cache -7d048ebf
0x11851 UI_BotSelectMenu_Init -5efd7143
0x11ab2 UI_BotSelectMenu 3a7174ca
0x11ac0 TeamMain_MenuEvent -5530d844
0x11b0e TeamMain_MenuInit -17cef732
0x11c39 TeamMain_Cache 28af01f9
0x11c41 UI_TeamMainMenu -ab66855
0x11c4c UI_TeamOrdersMenu_BackEvent 13bb7989
0x11c58 UI_TeamOrdersMenu_SetList 4321e698
0x11c99 UI_TeamOrdersMenu_Key 2248d8aa
0x11dcb UI_TeamOrdersMenu_ListDraw 60003953
0x11e45 UI_TeamOrdersMenu_ListEvent 29e5cec6
0x11ebb UI_TeamOrdersMenu_BuildBotList -5fdf7666
0x11faa UI_TeamOrdersMenu_Init 7fc57e0f
0x12041 UI_TeamOrdersMenu_Cache 68775ea3
0x12053 UI_TeamOrdersMenu -ab66855
0x1205e UI_TeamOrdersMenu_f 7d82acc6
0x120b0 DriverInfo_Event -3aff28a2
0x120c9 DriverInfo_MenuDraw -3eafb817
0x1219d DriverInfo_Cache -86d3641
0x121c1 UI_DriverInfo_Menu -1f400352
0x122ff GraphicsOptions_GetInitialVideo -79c1c94a
0x1232b GraphicsOptions_CheckConfig 500c6bef
0x123a7 GraphicsOptions_UpdateMenuItems 3b30f02b
0x124a9 GraphicsOptions_ApplyChanges -1f5c248f
0x125b7 GraphicsOptions_Event -7c8c66bf
0x1264e GraphicsOptions_TQEvent 3737dc97
0x1265f GraphicsOptions_MenuDraw -ab66855
0x1266a GraphicsOptions_SetMenuItems -706ace71
0x12773 GraphicsOptions_MenuInit -deb2b8b
0x12a72 GraphicsOptions_Cache 4c788730
0x12a93 UI_GraphicsOptionsMenu 34e64b92
0x12aa5 swapfunc -4bec0e3
0x12b2c med3 -472d498c
0x12baf qsort -5d3c407d
0x12f68 strlen 3ccc7232
0x12f83 strcat 2574254d
0x12fc6 strcpy 20e861a
0x12ffb strcmp 1a08c4e
0x13034 strchr -3619ff05
0x13053 strstr 9ea96f5
0x13099 tolower 288c5baf
0x130b1 toupper -248d83c2
0x130c9 memmove -5c34248c
0x13110 tan -2dee6193
0x13127 srand 757355f2
0x1312e rand -36fb9fa
0x13143 atof -1a4a66d7
0x13208 _atof -9ed1716
0x132d3 atoi 79498fe2
0x1334b _atoi -6ce6b7c
0x133cd abs 5e5d0172
0x133e2 fabs 63aa0337
0x133f7 AddInt 2e3dd69
0x134d2 AddFloat -1ab6e21e
0x135e0 AddString -4a7aa31f
0x13677 vsprintf 3df41e94
0x1380f sscanf 6d3737da
"

def text : String := String.join [part1, part2, part3, part4, part5]

end Disasm.Data.MenuHashes
